import Mathlib

/-!
# Support — paths

Paths of a Unix file system, as texts.  `join` and `withExtension` work on the text; `place` is
where a path leads when no links are followed, and `DirectlyIn dir path` says that it leads to a
file of `dir` itself.

A relative path can leave the directory that it is joined to, and an absolute one takes its place.
`directlyIn_append_iff`: where a path with a file name at its end leads depends on what stands
before the name alone.
-/

namespace Support.Paths

/-! ### Texts -/

/-- `Path::is_absolute`. -/
def isAbsolute (path : String) : Bool := path.toList.head? == some '/'

/-- `Path::join`. -/
def join (dir path : String) : String :=
  if isAbsolute path then path
  else if dir = "" ∨ dir.toList.getLast? = some '/' then dir ++ path
  else dir ++ "/" ++ path

/-- The segments of a path, between its slashes. -/
def segments (path : String) : List (List Char) := path.toList.splitOn '/'

/-- `Path::file_stem`, of a file name: what stands before the last dot, if anything does. -/
def fileStem (name : List Char) : List Char :=
  match name.reverse.dropWhile (· ≠ '.') with
  | [] => name
  | _ :: before => if before = [] then name else before.reverse

/-- `Path::with_extension`, for an extension that is not empty: the extension of the last segment
that is one, unless this is `..`. -/
def withExtension (path extension : String) : String :=
  match (segments path).reverse.dropWhile fun segment => segment = [] ∨ segment = ['.'] with
  | [] => path
  | name :: before =>
      if name = ['.', '.'] then path
      else String.ofList (['/'].intercalate
        (before.reverse ++ [fileStem name ++ '.' :: extension.toList]))

/-- A path up to its last slash. -/
def dirPart (path : String) : String :=
  String.ofList (path.toList.reverse.dropWhile (· ≠ '/')).reverse

/-- A path from its last slash on. -/
def lastPart (path : String) : String :=
  String.ofList (path.toList.reverse.takeWhile (· ≠ '/')).reverse

/-! ### Places -/

/-- A place in the file system: the root or the working directory, and the way down from there,
the innermost name first. -/
structure Place where
  absolute : Bool
  way : List (List Char)
  deriving DecidableEq

namespace Place

/-- One level down. -/
def down (place : Place) (name : List Char) : Place := { place with way := name :: place.way }

/-- One level up.  The root has no level above it. -/
def up (place : Place) : Place :=
  match place.way with
  | [] => if place.absolute then place else place.down ['.', '.']
  | name :: way => if name = ['.', '.'] then place.down ['.', '.'] else { place with way }

/-- One segment on. -/
def enter (place : Place) (segment : List Char) : Place :=
  if segment = [] ∨ segment = ['.'] then place
  else if segment = ['.', '.'] then place.up
  else place.down segment

end Place

/-- Where a path leads. -/
def place (path : String) : Place := (segments path).foldl Place.enter ⟨isAbsolute path, []⟩

/-- A name of a file. -/
structure IsName (name : List Char) : Prop where
  noSlash : '/' ∉ name
  ne_nil : name ≠ []
  ne_dot : name ≠ ['.']
  ne_dots : name ≠ ['.', '.']

/-- A path leads to a file of a directory. -/
def DirectlyIn (dir path : String) : Prop :=
  ∃ name, IsName name ∧ place path = (place dir).down name

theorem Place.enter_isName {name : List Char} (h : IsName name) (place : Place) :
    place.enter name = place.down name := by
  rw [enter, if_neg (not_or.mpr ⟨h.ne_nil, h.ne_dot⟩), if_neg h.ne_dots]

/-! ### The end of a path -/

/-- A text that a name can follow as a segment of its own. -/
def IsBase (base : String) : Prop := base = "" ∨ ∃ cs, base.toList = cs ++ ['/']

theorem dirPart_append_lastPart (path : String) : dirPart path ++ lastPart path = path := by
  rw [dirPart, lastPart, ← String.ofList_append, ← List.reverse_append,
    List.takeWhile_append_dropWhile, List.reverse_reverse, String.ofList_toList]

theorem noSlash_lastPart (path : String) : '/' ∉ (lastPart path).toList := by
  intro h
  rw [lastPart, String.toList_ofList, List.mem_reverse] at h
  have hne := List.mem_takeWhile_imp h
  simp at hne

theorem isBase_dirPart (path : String) : IsBase (dirPart path) := by
  rcases hdrop : path.toList.reverse.dropWhile (· ≠ '/') with _ | ⟨c, cs⟩
  · left
    rw [dirPart, hdrop]
    rfl
  · have hc : c = '/' := by
      have hhead := List.head?_dropWhile_not (fun c => decide (c ≠ '/')) path.toList.reverse
      rw [hdrop] at hhead
      simpa using hhead
    subst hc
    refine .inr ⟨cs.reverse, ?_⟩
    rw [dirPart, hdrop, String.toList_ofList, List.reverse_cons]

/-- The segments of a base and a name. -/
theorem segments_append {base : String} {name : List Char} (hbase : IsBase base)
    (hname : '/' ∉ name) : segments (base ++ String.ofList name)
      = (segments base).dropLast ++ [name] := by
  rcases hbase with rfl | ⟨cs, hcs⟩
  · rw [String.empty_append, segments, String.toList_ofList, List.splitOn_eq_singleton hname]
    rfl
  · have hsplit : segments base = cs.splitOn '/' ++ [[]] := by
      rw [segments, hcs, List.splitOn_append_cons_self, List.splitOn_nil]
    rw [hsplit, List.dropLast_concat, segments, String.toList_append, hcs, String.toList_ofList,
      List.append_assoc, List.singleton_append, List.splitOn_append_cons_self,
      List.splitOn_eq_singleton hname]

theorem isAbsolute_append {base : String} {name : List Char} (hbase : IsBase base)
    (hname : '/' ∉ name) : isAbsolute (base ++ String.ofList name) = isAbsolute base := by
  rcases hbase with rfl | ⟨cs, hcs⟩
  · rw [String.empty_append, isAbsolute, isAbsolute, String.toList_ofList]
    cases name with
    | nil => rfl
    | cons c name =>
        have hc : c ≠ '/' := fun heq => hname (heq ▸ List.mem_cons_self ..)
        simp [hc]
  · rw [isAbsolute, isAbsolute, String.toList_append, hcs]
    cases cs with
    | nil => rfl
    | cons c cs => rfl

/-- **A name after a base is one level down.** -/
theorem place_append {base : String} {name : List Char} (hbase : IsBase base)
    (hname : IsName name) : place (base ++ String.ofList name) = (place base).down name := by
  have hlast : (segments base).foldl Place.enter ⟨isAbsolute base, []⟩
      = (segments base).dropLast.foldl Place.enter ⟨isAbsolute base, []⟩ := by
    rcases hbase with rfl | ⟨cs, hcs⟩
    · rfl
    · have hsplit : segments base = cs.splitOn '/' ++ [[]] := by
        rw [segments, hcs, List.splitOn_append_cons_self, List.splitOn_nil]
      rw [hsplit, List.dropLast_concat, List.foldl_append]
      rfl
  rw [place, place, segments_append hbase hname.noSlash, isAbsolute_append hbase hname.noSlash,
    List.foldl_append, hlast, List.foldl_cons, List.foldl_nil, Place.enter_isName hname]

/-! ### Joining -/

theorem isBase_join (dir : String) {base : String} (h : IsBase base) : IsBase (join dir base) := by
  rw [join]
  split
  · exact h
  · rcases h with rfl | ⟨cs, hcs⟩
    · split
      next hdir =>
        rw [String.append_empty]
        refine hdir.imp_right fun hlast => ?_
        obtain ⟨cs, hcs⟩ := List.getLast?_eq_some_iff.mp hlast
        exact ⟨cs, hcs⟩
      next =>
        refine .inr ⟨dir.toList, ?_⟩
        rw [String.append_empty, String.toList_append]
        rfl
    · split
      next => exact .inr ⟨dir.toList ++ cs, by rw [String.toList_append, hcs, List.append_assoc]⟩
      next =>
        refine .inr ⟨(dir ++ "/").toList ++ cs, ?_⟩
        rw [String.toList_append, hcs, List.append_assoc]

/-- Joining nothing leads to the directory. -/
theorem place_join_empty (dir : String) : place (join dir "") = place dir := by
  rw [join, if_neg (by decide)]
  split
  · rw [String.append_empty]
  next hdir =>
    have hne : dir ≠ "" := fun heq => hdir (.inl heq)
    obtain ⟨c, cs, hcs⟩ : ∃ c cs, dir.toList = c :: cs :=
      List.exists_cons_of_ne_nil fun hnil => hne (String.toList_injective hnil)
    have habsolute : isAbsolute (dir ++ "/" ++ "") = isAbsolute dir := by
      rw [String.append_empty, isAbsolute, isAbsolute, String.toList_append, hcs]
      rfl
    have hsegments : segments (dir ++ "/" ++ "") = segments dir ++ [[]] := by
      have htext : (dir ++ "/" ++ "").toList = dir.toList ++ '/' :: [] := by
        rw [String.append_empty, String.toList_append]
        rfl
      rw [segments, htext, List.splitOn_append_cons_self, List.splitOn_nil, segments]
    rw [place, habsolute, hsegments, List.foldl_append]
    rfl

/-- Joining a base and a name. -/
theorem join_append (dir : String) {base : String} {name : List Char} (hbase : IsBase base)
    (hname : '/' ∉ name) :
    join dir (base ++ String.ofList name) = join dir base ++ String.ofList name := by
  rw [join, join, isAbsolute_append hbase hname]
  split
  · rfl
  · split
    next => rw [String.append_assoc]
    next =>
      rw [String.append_assoc, String.append_assoc, String.append_assoc, ← String.append_assoc]

/-- The base of a path that is joined to a directory. -/
def joinedBase (dir path : String) : String := join dir (dirPart path)

theorem isBase_joinedBase (dir path : String) : IsBase (joinedBase dir path) :=
  isBase_join dir (isBase_dirPart path)

/-- The end of a path and a suffix. -/
theorem join_suffix (dir path : String) {suffix : List Char} (h : '/' ∉ suffix) :
    join dir (path ++ String.ofList suffix)
      = joinedBase dir path ++ String.ofList ((lastPart path).toList ++ suffix) := by
  have hname : '/' ∉ (lastPart path).toList ++ suffix := by
    rw [List.mem_append, not_or]
    exact ⟨noSlash_lastPart path, h⟩
  rw [joinedBase, ← join_append dir (isBase_dirPart path) hname]
  congr 1
  conv_lhs => rw [← dirPart_append_lastPart path]
  rw [String.append_assoc, String.ofList_append, String.ofList_toList]

/-- **When a path with a file name at its end leads to a file of the directory**: when what stands
before the name leads back to the directory. -/
theorem directlyIn_append_iff {dir base : String} {name : List Char} (hbase : IsBase base)
    (hname : IsName name) :
    DirectlyIn dir (base ++ String.ofList name) ↔ place base = place dir := by
  rw [DirectlyIn, place_append hbase hname]
  constructor
  · rintro ⟨name', -, heq⟩
    obtain ⟨habsolute, hway⟩ := Place.mk.inj heq
    have hway' := (List.cons.inj hway).2
    cases hb : place base
    cases hd : place dir
    simp only [hb, hd] at habsolute hway'
    rw [habsolute, hway']
  · intro heq
    exact ⟨name, hname, by rw [heq]⟩

/-- When two paths with file names at their ends lead to one file. -/
theorem place_append_eq_iff {base base' : String} {name name' : List Char} (hbase : IsBase base)
    (hbase' : IsBase base') (hname : IsName name) (hname' : IsName name') :
    place (base ++ String.ofList name) = place (base' ++ String.ofList name') ↔
      place base = place base' ∧ name = name' := by
  rw [place_append hbase hname, place_append hbase' hname']
  constructor
  · intro heq
    obtain ⟨habsolute, hway⟩ := Place.mk.inj heq
    obtain ⟨hname, hway'⟩ := List.cons.inj hway
    cases hb : place base
    cases hb' : place base'
    simp only [hb, hb'] at habsolute hway'
    rw [habsolute, hway']
    exact ⟨rfl, hname⟩
  · rintro ⟨heq, rfl⟩
    rw [heq]

/-! ### Extensions -/

theorem mem_of_mem_fileStem {name : List Char} {c : Char} (h : c ∈ fileStem name) : c ∈ name := by
  rw [fileStem] at h
  split at h
  · exact h
  next d before hbefore =>
    split at h
    · exact h
    · have hmem : c ∈ d :: before := List.mem_cons_of_mem d (List.mem_reverse.mp h)
      rw [← hbefore] at hmem
      exact List.mem_reverse.mp ((List.dropWhile_sublist _).subset hmem)

/-- The stem of a name with an extension. -/
theorem fileStem_append {name extension : List Char} (h : '.' ∉ extension) :
    fileStem (name ++ '.' :: extension)
      = if name = [] then '.' :: extension else name := by
  have hdrop : (name ++ '.' :: extension).reverse.dropWhile (· ≠ '.') = '.' :: name.reverse := by
    rw [List.reverse_append, List.reverse_cons, List.append_assoc, List.dropWhile_append_of_pos]
    · rfl
    · intro c hc
      have hne : c ≠ '.' := fun heq => h (heq ▸ List.mem_reverse.mp hc)
      simpa using hne
  rw [fileStem, hdrop]
  cases name with
  | nil => rfl
  | cons c name => simp

/-- The extension of a name after a base. -/
theorem withExtension_append {base extension : String} {name : List Char} (hbase : IsBase base)
    (hname : IsName name) (hextension : '/' ∉ extension.toList) :
    withExtension (base ++ String.ofList name) extension
      = base ++ String.ofList (fileStem name ++ '.' :: extension.toList) := by
  have hnew : '/' ∉ fileStem name ++ '.' :: extension.toList := by
    rw [List.mem_append, List.mem_cons, not_or, not_or]
    exact ⟨fun h => hname.noSlash (mem_of_mem_fileStem h), by decide, hextension⟩
  have hstop : (name :: (segments base).dropLast.reverse).dropWhile
      (fun segment => segment = [] ∨ segment = ['.'])
        = name :: (segments base).dropLast.reverse := by
    rw [List.dropWhile_cons_of_neg]
    simp [hname.ne_nil, hname.ne_dot]
  have htext : ['/'].intercalate (segments (base ++ String.ofList
      (fileStem name ++ '.' :: extension.toList))) = _ :=
    List.intercalate_splitOn '/'
  rw [segments_append hbase hnew] at htext
  rw [withExtension, segments_append hbase hname.noSlash, List.reverse_append,
    List.reverse_singleton, List.singleton_append, hstop]
  simp only [if_neg hname.ne_dots, List.reverse_reverse]
  rw [htext, String.ofList_toList]

end Support.Paths
