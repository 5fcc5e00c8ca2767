import Mathlib.Data.List.Nodup
import AsyncLint.Files.Sources
import AsyncLint.Proofs.Place

/-!
# The sources below a directory

A directory is expanded level by level: its entries are sorted by their paths, and each entry is replaced by what is
found there. Paths are compared component by component, so whatever is below an entry compares with the other entries as
the entry itself does, and the whole list is in order. With names compared as texts this would fail: `a/z.rs` comes before
`a.rs`.
-/

namespace AsyncLint

open Std

/-! ## Paths -/

/-- What an entry of a directory can be called. -/
def Path.IsName (name : String) : Prop :=
  name ∉ ["", ".", ".."] ∧ '/' ∉ name.toList

instance (name : String) : Decidable (Path.IsName name) :=
  inferInstanceAs (Decidable (_ ∧ _))

namespace Path

variable {dir name path : String} {names : List String} {first : List Char} {rest : List (List Char)}

theorem IsName.toList_ne (h : IsName name) : name.toList ≠ [] ∧ name.toList ≠ ['.'] ∧ name.toList ≠ ['.', '.'] := by
  obtain ⟨hempty, hhere, hparent⟩ : name ≠ "" ∧ name ≠ "." ∧ name ≠ ".." := by simpa using h.1
  exact ⟨fun he => hempty (String.toList_inj.mp he), fun he => hhere (String.toList_inj.mp he),
    fun he => hparent (String.toList_inj.mp he)⟩

theorem ofPart?_of_isName (h : IsName name) : Component.ofPart? name.toList = some (.name name) := by
  obtain ⟨hempty, hhere, hparent⟩ := h.toList_ne
  rw [Component.ofPart?, if_neg (not_or.mpr ⟨hempty, hhere⟩), if_neg hparent, String.ofList_toList]

theorem parts_of_isName (h : IsName name) : parts name = [name.toList] :=
  List.splitOn_eq_singleton h.2

/-- What the first of several parts stands for. -/
def leading (first : List Char) : List Component :=
  if first = [] then [.root] else if first = ['.'] then [.here] else (Component.ofPart? first).toList

theorem components_of_parts (h : parts path = first :: rest) (hne : first ≠ [] ∨ rest ≠ []) :
    components path = leading first ++ rest.filterMap Component.ofPart? := by
  unfold components leading
  rw [h]
  split
  · contradiction
  · rename_i hcons
    cases hcons
    rw [if_neg (by simpa using hne)]
    rfl
  · rename_i hcons
    cases hcons
    rfl
  · rename_i hroot hhere hcons
    cases hcons
    rw [if_neg hroot, if_neg hhere, List.filterMap_cons]
    cases Component.ofPart? first <;> rfl

theorem components_of_isName (h : IsName name) : components name = [.name name] := by
  obtain ⟨hempty, hhere, -⟩ := h.toList_ne
  rw [components_of_parts (parts_of_isName h) (Or.inl hempty), leading, if_neg hempty, if_neg hhere, ofPart?_of_isName h]
  rfl

theorem endsWith_slash_iff : dir.endsWith "/" = true ↔ ['/'] <:+ dir.toList := by
  rw [String.endsWith_eq_endsWith_toSlice, String.Slice.endsWith_string_iff, String.copy_toSlice]
  rfl

/-- An entry has one component more than its directory, however the path of the directory is written. -/
theorem components_join (h : IsName name) : components (join dir name) = components dir ++ [.name name] := by
  by_cases hdir : dir = ""
  · subst hdir
    exact components_of_isName h
  obtain ⟨first, rest, hparts, hcomponents⟩ : ∃ first rest, parts (join dir name) = first :: (rest ++ [name.toList]) ∧
      components dir = leading first ++ rest.filterMap Component.ofPart? := by
    by_cases hslash : dir.endsWith "/" = true
    · -- the empty part behind the last slash gives way to the name
      obtain ⟨front, hfront⟩ := endsWith_slash_iff.mp hslash
      obtain ⟨first, rest, hsplit⟩ := List.exists_cons_of_ne_nil (List.splitOn_ne_nil '/' front)
      have hdirParts : parts dir = first :: (rest ++ [[]]) := by
        rw [parts, ← hfront, List.splitOn_append_cons_self, hsplit]
        rfl
      refine ⟨first, rest, ?_, ?_⟩
      · rw [join, if_pos (Or.inr hslash), parts, String.toList_append, ← hfront, List.append_assoc,
          List.singleton_append, List.splitOn_append_cons_self, hsplit, ← parts, parts_of_isName h, List.cons_append]
      · rw [components_of_parts hdirParts (Or.inr (by simp))]
        simp [Component.ofPart?]
    · obtain ⟨first, rest, hsplit⟩ := List.exists_cons_of_ne_nil (List.splitOn_ne_nil '/' dir.toList)
      have hne : first ≠ [] ∨ rest ≠ [] := by
        refine Decidable.not_and_iff_not_or_not.mp ?_
        rintro ⟨rfl, rfl⟩
        have hjoin : ['/'].intercalate [[]] = dir.toList := hsplit ▸ List.intercalate_splitOn '/'
        exact hdir (String.toList_inj.mp hjoin.symm)
      refine ⟨first, rest, ?_, components_of_parts hsplit hne⟩
      have htext : (dir ++ "/" ++ name).toList = dir.toList ++ '/' :: name.toList := by simp
      rw [join, if_neg (not_or.mpr ⟨hdir, hslash⟩), parts, htext, List.splitOn_append_cons_self, hsplit, ← parts,
        parts_of_isName h, List.cons_append]
  rw [components_of_parts hparts (Or.inr (by simp)), hcomponents, List.filterMap_append, List.append_assoc,
    List.filterMap_cons, ofPart?_of_isName h]
  rfl

theorem components_foldl_join (h : ∀ name ∈ names, IsName name) (dir : String) :
    components (names.foldl join dir) = components dir ++ names.map .name := by
  induction names generalizing dir with
  | nil => simp
  | cons name names ih =>
      rw [List.foldl_cons, ih (fun n hn => h n (List.mem_cons_of_mem name hn)),
        components_join (h name List.mem_cons_self), List.append_assoc]
      rfl

/-- Paths below one directory differ if the names do. -/
theorem foldl_join_inj {names' : List String} (h : ∀ name ∈ names, IsName name) (h' : ∀ name ∈ names', IsName name)
    (heq : names.foldl join dir = names'.foldl join dir) : names = names' := by
  have hcomponents := congrArg components heq
  rw [components_foldl_join h, components_foldl_join h', List.append_cancel_left_eq] at hcomponents
  exact (List.map_inj_right fun _ _ => Component.name.inj).mp hcomponents

theorem join_inj {name' : String} (h : IsName name) (h' : IsName name') (heq : join dir name = join dir name') :
    name = name' := by
  have hsame : [name] = [name'] := foldl_join_inj (by simpa using h) (by simpa using h') heq
  exact (List.cons.inj hsame).1

theorem compare_name (a b : String) : compare (Component.name a) (Component.name b) = compare a b := by
  rw [Component.compare_eq]
  rfl

theorem compare_append_cons (base s t : List Component) (a b : Component) :
    compare (base ++ a :: s) (base ++ b :: t) = (compare a b).then (compare s t) := by
  induction base with
  | nil => exact List.compare_cons_cons
  | cons c base ih =>
      have hself : compare c c = .eq := ReflCmp.compare_self
      rw [List.cons_append, List.cons_append, List.compare_cons_cons, hself, ih]
      rfl

theorem fileName?_join (h : IsName name) : fileName? (join dir name) = some name := by
  rw [fileName?, components_join h, List.getLast?_concat]

end Path

namespace Entry

open AsyncLint.Path (IsName)

variable {entries : List (String × Entry)} {e : Entry} {dir name path : String} {dirs names : List String}

/-! ## Trees -/

/-- The entries of every directory in the tree have names, and no two have the same. -/
inductive Proper : Entry → Prop where
  | file (content : ByteArray) : Proper (.file content)
  | directory {entries : List (String × Entry)} (hnames : ∀ x ∈ entries, IsName x.1)
      (hdistinct : (entries.map (·.1)).Nodup) (hinner : ∀ x ∈ entries, Proper x.2) : Proper (.directory entries)

/-- The names lead from one entry to another, from each directory to an entry of it. -/
inductive Leads : Entry → List String → Entry → Prop where
  | here {e : Entry} : Leads e [] e
  | into {entries : List (String × Entry)} {name : String} {names : List String} {inner e : Entry}
      (hmem : (name, inner) ∈ entries) (h : Leads inner names e) : Leads (.directory entries) (name :: names) e

theorem Leads.isName {start : Entry} (hproper : start.Proper) (h : Leads start names e) : ∀ name ∈ names, IsName name := by
  induction h with
  | here => simp
  | into hmem _ ih =>
      cases hproper with
      | directory hnames _ hinner => exact List.forall_mem_cons.mpr ⟨hnames _ hmem, ih (hinner _ hmem)⟩

theorem Leads.unique {start e' : Entry} (hproper : start.Proper) (h : Leads start names e) (h' : Leads start names e') :
    e = e' := by
  induction h with
  | here =>
      cases h'
      rfl
  | into hmem _ ih =>
      cases hproper with
      | directory _ hdistinct hinner =>
          cases h' with
          | into hmem' h' =>
              have hsame := List.inj_on_of_nodup_map hdistinct hmem hmem' rfl
              exact ih (hinner _ hmem) ((Prod.mk.inj hsame).2 ▸ h')

theorem Leads.eq_nil_of_file {content : ByteArray} (h : Leads (.file content) names e) : names = [] := by
  cases h
  rfl

/-- File `name` in the directory that `dirs` lead to is a source, and no directory on the way is left out. -/
structure SourceAt (entries : List (String × Entry)) (dirs : List String) (name : String) : Prop where
  leads : ∃ content, Leads (.directory entries) (dirs ++ [name]) (.file content)
  kept : ∀ d ∈ dirs, d ≠ "target" ∧ d ≠ ".git"
  extension : ∃ stem, stem ≠ "" ∧ name = stem ++ ".rs"

theorem sourceAt_nil_iff : SourceAt entries [] name ↔
    (∃ content, (name, .file content) ∈ entries) ∧ ∃ stem, stem ≠ "" ∧ name = stem ++ ".rs" := by
  constructor
  · rintro ⟨⟨content, h⟩, -, hext⟩
    cases h with
    | into hmem h =>
        cases h
        exact ⟨⟨content, hmem⟩, hext⟩
  · rintro ⟨⟨content, hmem⟩, hext⟩
    exact ⟨⟨content, .into hmem .here⟩, by simp, hext⟩

theorem sourceAt_cons_iff {d : String} : SourceAt entries (d :: dirs) name ↔
    d ∉ skippedNames ∧ ∃ inner, (d, .directory inner) ∈ entries ∧ SourceAt inner dirs name := by
  have hskipped : d ∉ skippedNames ↔ d ≠ "target" ∧ d ≠ ".git" := by simp [skippedNames]
  rw [hskipped]
  constructor
  · rintro ⟨⟨content, h⟩, hkept, hext⟩
    obtain ⟨hd, hdirs⟩ := List.forall_mem_cons.mp hkept
    cases h with
    | @into _ _ _ inner _ hmem h =>
        cases inner with
        | file content => exact absurd h.eq_nil_of_file (List.append_ne_nil_of_right_ne_nil dirs (by simp))
        | directory inner => exact ⟨hd, inner, hmem, ⟨content, h⟩, hdirs, hext⟩
  · rintro ⟨hd, inner, hmem, ⟨content, h⟩, hdirs, hext⟩
    exact ⟨⟨content, .into hmem h⟩, List.forall_mem_cons.mpr ⟨hd, hdirs⟩, hext⟩

/-! ## What is found at an entry -/

theorem isSource_join_iff (h : IsName name) :
    isSource (Path.join dir name) = true ↔ ∃ stem, stem ≠ "" ∧ name = stem ++ ".rs" := by
  rw [isSource, beq_iff_eq, Path.extension?, Path.fileName?_join h, Option.bind_some]
  constructor
  · intro hext
    dsimp only at hext
    split at hext
    · rename_i last front hdrop
      have htake : name.toList.reverse.takeWhile (· != '.') = ['s', 'r'] := by
        have := congrArg String.toList (Option.some.inj hext)
        simpa using this
      have hname : name.toList.reverse = ['s', 'r'] ++ '.' :: last :: front := by
        rw [← hdrop, ← htake, List.takeWhile_append_dropWhile]
      refine ⟨String.ofList (last :: front).reverse, by simp, String.toList_inj.mp ?_⟩
      rw [← List.reverse_reverse name.toList, hname]
      simp
    · cases hext
  · rintro ⟨stem, hstem, rfl⟩
    obtain ⟨last, front, hcons⟩ := List.exists_cons_of_ne_nil
      (fun hn => hstem (by simpa using hn) : stem.toList.reverse ≠ [])
    simp [hcons]

/-- The sources found at an entry of the given path and name. -/
def sourcesAt (path name : String) : Entry → List String
  | .file _ => if isSource path then [path] else []
  | .directory inner => if skippedNames.contains name then [] else sourcesBelow path inner

theorem sourcesByPath_eq (dir : String) (entries : List (String × Entry)) : sourcesByPath dir entries =
    entries.map fun x => (Path.join dir x.1, sourcesAt (Path.join dir x.1) x.1 x.2) := by
  induction entries with
  | nil => simp [sourcesByPath]
  | cons x entries ih =>
      obtain ⟨name, e⟩ := x
      cases e with
      | file content => rw [sourcesByPath, ih]; rfl
      | directory inner => rw [sourcesByPath, ih]; rfl

theorem mem_sourcesBelow : path ∈ sourcesBelow dir entries ↔
    ∃ name e, (name, e) ∈ entries ∧ path ∈ sourcesAt (Path.join dir name) name e := by
  simp only [sourcesBelow, inOrder, sourcesByPath_eq, List.mem_flatMap, List.mem_mergeSort, List.mem_map]
  constructor
  · rintro ⟨_, ⟨⟨name, e⟩, hmem, rfl⟩, hpath⟩
    exact ⟨name, e, hmem, hpath⟩
  · rintro ⟨name, e, hmem, hpath⟩
    exact ⟨_, ⟨⟨name, e⟩, hmem, rfl⟩, hpath⟩

theorem Proper.mem_sourcesBelow_iff (h : e.Proper) (he : e = .directory entries) : path ∈ sourcesBelow dir entries ↔
    ∃ dirs name, SourceAt entries dirs name ∧ path = (dirs ++ [name]).foldl Path.join dir := by
  -- along the proof that the tree is proper, which goes down to every entry
  induction h generalizing dir path entries with
  | file => cases he
  | directory hnames _ _ ih =>
      cases he
      rw [mem_sourcesBelow]
      constructor
      · rintro ⟨name, e, hmem, hpath⟩
        cases e with
        | file content =>
            obtain ⟨hsource, rfl⟩ : isSource (Path.join dir name) = true ∧ path = Path.join dir name := by
              simpa [sourcesAt] using hpath
            exact ⟨[], name, sourceAt_nil_iff.mpr ⟨⟨content, hmem⟩, (isSource_join_iff (hnames _ hmem)).mp hsource⟩, rfl⟩
        | directory inner =>
            obtain ⟨hkept, hpath⟩ : name ∉ skippedNames ∧ path ∈ sourcesBelow (Path.join dir name) inner := by
              simpa [sourcesAt] using hpath
            obtain ⟨dirs, last, hsource, rfl⟩ := (ih _ hmem rfl).mp hpath
            exact ⟨name :: dirs, last, sourceAt_cons_iff.mpr ⟨hkept, inner, hmem, hsource⟩, rfl⟩
      · rintro ⟨dirs, name, hsource, rfl⟩
        cases dirs with
        | nil =>
            obtain ⟨⟨content, hmem⟩, hext⟩ := sourceAt_nil_iff.mp hsource
            refine ⟨name, _, hmem, ?_⟩
            simp [sourcesAt, (isSource_join_iff (hnames _ hmem)).mpr hext]
        | cons d dirs =>
            obtain ⟨hkept, inner, hmem, hsource⟩ := sourceAt_cons_iff.mp hsource
            refine ⟨d, _, hmem, ?_⟩
            simpa [sourcesAt, hkept] using (ih _ hmem rfl).mpr ⟨dirs, name, hsource, rfl⟩

/-! ## The order of what is found -/

/-- What is found at an entry has the path of the entry, or goes on from there. -/
theorem components_of_mem_sourcesAt (hname : IsName name) (he : e.Proper) (h : path ∈ sourcesAt (Path.join dir name) name e) :
    ∃ rest, Path.components path = Path.components dir ++ .name name :: rest := by
  cases e with
  | file content =>
      obtain ⟨_, rfl⟩ : isSource (Path.join dir name) = true ∧ path = Path.join dir name := by
        simpa [sourcesAt] using h
      exact ⟨[], Path.components_join hname⟩
  | directory inner =>
      obtain ⟨_, hpath⟩ : name ∉ skippedNames ∧ path ∈ sourcesBelow (Path.join dir name) inner := by
        simpa [sourcesAt] using h
      obtain ⟨dirs, last, ⟨⟨content, hleads⟩, -, -⟩, rfl⟩ := (he.mem_sourcesBelow_iff rfl).mp hpath
      refine ⟨(dirs ++ [last]).map .name, ?_⟩
      rw [Path.components_foldl_join (hleads.isName he), Path.components_join hname, List.append_assoc,
        List.singleton_append]

instance : TransCmp fun a b : String × List String => Path.compare a.1 b.1 :=
  inferInstanceAs (TransCmp (compareOn fun x : String × List String => Path.components x.1))

/-- Entries of one directory are in the order of their names. -/
theorem compare_join {name' : String} (hname : IsName name) (hname' : IsName name') :
    Path.compare (Path.join dir name) (Path.join dir name') = compare name name' := by
  rw [Path.compare, Path.components_join hname, Path.components_join hname', Path.compare_append_cons, Path.compare_name]
  cases compare name name' <;> rfl

/-- Where everything found at each entry is in order, so is everything found in the directory. -/
theorem sorted_of_entries (hnames : ∀ x ∈ entries, IsName x.1) (hdistinct : (entries.map (·.1)).Nodup)
    (hinner : ∀ x ∈ entries, Proper x.2) (hsorted : ∀ x ∈ entries,
      (sourcesAt (Path.join dir x.1) x.1 x.2).Pairwise fun a b => Path.compare a b = .lt) :
    (sourcesBelow dir entries).Pairwise fun a b => Path.compare a b = .lt := by
  have hsort := stableSort_mergeSort (fun a b : String × List String => Path.compare a.1 b.1) (sourcesByPath dir entries)
  have hfound : ∀ a ∈ (sourcesByPath dir entries).mergeSort fun a b => Path.compare a.1 b.1 != .gt, ∃ x ∈ entries,
      (Path.join dir x.1, sourcesAt (Path.join dir x.1) x.1 x.2) = a := by
    intro a ha
    rw [hsort.perm.mem_iff, sourcesByPath_eq] at ha
    exact List.mem_map.mp ha
  have hpaths : (sourcesByPath dir entries).Pairwise fun a b => a.1 ≠ b.1 := by
    rw [sourcesByPath_eq, List.pairwise_map]
    refine (List.pairwise_map.mp hdistinct).imp_of_mem fun hx hy hne => ?_
    exact fun heq => hne (Path.join_inj (hnames _ hx) (hnames _ hy) heq)
  rw [sourcesBelow, inOrder, List.pairwise_flatMap]
  constructor
  · intro a ha
    obtain ⟨x, hx, rfl⟩ := hfound a ha
    exact hsorted x hx
  · have hdiffer := (hsort.perm.pairwise_iff fun h => h.symm).mpr hpaths
    refine (hsort.sorted.and hdiffer).imp_of_mem fun ha hb hab p hp q hq => ?_
    obtain ⟨x, hx, rfl⟩ := hfound _ ha
    obtain ⟨y, hy, rfl⟩ := hfound _ hb
    obtain ⟨s, hs⟩ := components_of_mem_sourcesAt (hnames x hx) (hinner x hx) hp
    obtain ⟨t, ht⟩ := components_of_mem_sourcesAt (hnames y hy) (hinner y hy) hq
    have hlt : compare x.1 y.1 = .lt := by
      have hle : compare x.1 y.1 ≠ .gt := compare_join (hnames x hx) (hnames y hy) ▸ hab.1
      cases hcompare : compare x.1 y.1 with
      | lt => rfl
      | eq => exact absurd (congrArg (Path.join dir) (LawfulEqCmp.eq_of_compare hcompare)) hab.2
      | gt => exact absurd hcompare hle
    rw [Path.compare, hs, ht, Path.compare_append_cons, Path.compare_name, hlt]
    rfl

theorem Proper.sorted_sourcesBelow (h : e.Proper) (he : e = .directory entries) :
    (sourcesBelow dir entries).Pairwise fun a b => Path.compare a b = .lt := by
  induction h generalizing dir entries with
  | file => cases he
  | directory hnames hdistinct hinner ih =>
      cases he
      refine sorted_of_entries hnames hdistinct hinner fun x hx => ?_
      obtain ⟨name, e⟩ := x
      cases e with
      | file content =>
          rw [sourcesAt]
          split
          · exact List.pairwise_singleton _ _
          · exact List.Pairwise.nil
      | directory inner =>
          rw [sourcesAt]
          split
          · exact List.Pairwise.nil
          · exact ih _ hx rfl

/-- Expanding a directory finds exactly the files with the extension `rs` that are not below a left-out directory, in
strictly increasing order of their paths. The path of the directory plays no part, and no path stands for two
entries. -/
theorem sourcesBelow_exact (dir : String) (entries : List (String × Entry)) (h : Proper (.directory entries)) :
    (∀ path, path ∈ sourcesBelow dir entries ↔
      ∃ dirs name, SourceAt entries dirs name ∧ path = (dirs ++ [name]).foldl Path.join dir) ∧
    (sourcesBelow dir entries).Pairwise (fun a b => Path.compare a b = .lt) ∧
    ∀ names names' e e', Leads (.directory entries) names e → Leads (.directory entries) names' e' →
      names.foldl Path.join dir = names'.foldl Path.join dir → names = names' ∧ e = e' := by
  refine ⟨fun path => h.mem_sourcesBelow_iff rfl, h.sorted_sourcesBelow rfl, fun names names' e e' hleads hleads' heq => ?_⟩
  obtain rfl := Path.foldl_join_inj (hleads.isName h) (hleads'.isName h) heq
  exact ⟨rfl, hleads.unique h hleads'⟩

/-- A directory beside a file that begins with its name, a file that only looks like an extension, and build results. -/
def grove : List (String × Entry) :=
  [("a.rs", .file .empty), ("a", .directory [(".rs", .file .empty), ("z.rs", .file .empty)]),
    ("target", .directory [("t.rs", .file .empty)])]

theorem proper_grove : Proper (.directory grove) := by
  refine .directory (by decide) (by decide) ?_
  simp only [grove, List.forall_mem_cons, List.not_mem_nil, false_imp_iff, implies_true, and_true]
  refine ⟨.file _, .directory (by decide) (by decide) ?_, .directory (by decide) (by decide) ?_⟩
  · simpa using Proper.file _
  · simpa using Proper.file _

theorem sourcesBelow_exact_grove : Proper (.directory grove) ∧ "src/a.rs" ∈ sourcesBelow "src" grove ∧
    "src/a/z.rs" ∈ sourcesBelow "src" grove ∧ "src/target/t.rs" ∉ sourcesBelow "src" grove ∧
    (sourcesBelow "src" grove).Pairwise fun a b => Path.compare a b = .lt := by
  obtain ⟨hmem, hsorted, hinj⟩ := sourcesBelow_exact "src" grove proper_grove
  have htarget : ("target", Entry.directory [("t.rs", .file .empty)]) ∈ grove := by simp [grove]
  have hbuilt : Leads (.directory grove) ["target", "t.rs"] (.file .empty) :=
    .into htarget (.into (List.mem_singleton.mpr rfl) .here)
  refine ⟨proper_grove, (hmem _).mpr ⟨[], "a.rs", ?_, by decide +kernel⟩,
    (hmem _).mpr ⟨["a"], "z.rs", ?_, by decide +kernel⟩, fun h => ?_, hsorted⟩
  · exact sourceAt_nil_iff.mpr ⟨⟨.empty, by simp [grove]⟩, "a", by decide, by decide⟩
  · refine sourceAt_cons_iff.mpr ⟨by decide, [(".rs", .file .empty), ("z.rs", .file .empty)], by simp [grove], ?_⟩
    exact sourceAt_nil_iff.mpr ⟨⟨.empty, by simp⟩, "z", by decide, by decide⟩
  · obtain ⟨dirs, name, ⟨⟨content, hleads⟩, hkept, -⟩, hpath⟩ := (hmem _).mp h
    have hnames : dirs ++ [name] = ["target"] ++ ["t.rs"] :=
      (hinj _ _ _ _ hleads hbuilt (hpath.symm.trans (by decide +kernel))).1
    obtain ⟨rfl, -⟩ := List.append_inj' hnames rfl
    exact (hkept "target" (by simp)).1 rfl

end Entry

end AsyncLint
