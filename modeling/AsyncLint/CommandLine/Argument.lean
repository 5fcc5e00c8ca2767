/-!
# Arguments

The words of a command line, sorted into options, values and plain words. A short option can have its value in the same
word, with or without an equals sign, and a long one with an equals sign. Two hyphens end the options.
-/

namespace AsyncLint.CommandLine

/-- A piece of a command line. -/
inductive Argument where
  | short (letter : Char)
  | long (name : String)
  /-- A value in the same word as its option. -/
  | value (text : String)
  | word (text : String)
  /-- The two hyphens that end the options. -/
  | ending
  /-- A word behind the end of the options. -/
  | plain (text : String)
deriving DecidableEq, Repr

/-- The short options that take no value, and those that take one. -/
structure Letters where
  flags : List Char
  valued : List Char

namespace Argument

/-- Short options that share one hyphen: flags, and at the end possibly an option with its value. With a letter that is
not known, there is nothing. -/
def cluster? (letters : Letters) : List Char → Option (List Argument)
  | [] => some []
  | c :: rest =>
    if letters.flags.contains c then (cluster? letters rest).map (.short c :: ·)
    else if letters.valued.contains c then
      some (.short c :: if rest = [] then [] else [.value (String.ofList rest)])
    else none

/-- The pieces of a word that starts with one hyphen; `body` is what follows. -/
def ofShort (letters : Letters) (body : List Char) : List Argument :=
  match body with
  | [] => [.word "-"]
  | [c] => [.short c]
  | c :: rest =>
    match rest.dropWhile (· != '=') with
    | [] => (cluster? letters body).getD [.word (String.ofList ('-' :: body))]
    | _ :: text => [.short c, .value (String.ofList (if rest.head? = some '=' then text else rest))]

/-- The pieces of a word that starts with two hyphens; `body` is what follows. -/
def ofLong (body : List Char) : List Argument :=
  let name := body.takeWhile (· != '=')
  .long (String.ofList name) ::
    if name.length = body.length then [] else [.value (String.ofList (body.drop (name.length + 1)))]

/-- The pieces of a command line. -/
def ofWords (letters : Letters) : List String → List Argument
  | [] => []
  | text :: rest =>
    match text.toList with
    | ['-', '-'] => .ending :: rest.map .plain
    | '-' :: '-' :: body => ofLong body ++ ofWords letters rest
    | '-' :: body => ofShort letters body ++ ofWords letters rest
    | _ => .word text :: ofWords letters rest

end Argument

end AsyncLint.CommandLine
