import ImportAtlas.Proofs.Path.Names
import Mathlib.Data.List.TakeWhile

/-! # Lexical paths made of names

What the lexical operations do to a path that is put together from names: its directory has all
names but the last one, joining puts names behind names, and evaluation takes away what it goes up
from.
-/

namespace ImportAtlas.Path

open Scan (pathText)

/-! ## Directories and joining -/

theorem slashed_eq_self {path : String} (plain : '\\' ∉ path.toList) : slashed path = path := by
  have unchanged : path.toList.map (fun char => if char = '\\' then '/' else char) =
      path.toList := by
    refine (List.map_congr_left fun char member => ?_).trans (List.map_id _)
    rw [if_neg, id]
    rintro rfl
    exact plain member
  rw [slashed, unchanged, String.ofList_toList]

theorem backslash_not_mem_slashed (path : String) : '\\' ∉ (slashed path).toList := by
  rw [slashed, String.toList_ofList, List.mem_map]
  rintro ⟨char, _, equal⟩
  split at equal
  · cases equal
  · rename_i other
    exact other equal

theorem plain_of_mem_components_slashed {path part : String}
    (member : part ∈ components (slashed path)) : '/' ∉ part.toList ∧ '\\' ∉ part.toList :=
  ⟨slash_not_mem_of_mem_components member,
    fun inPart => backslash_not_mem_slashed path (Text.mem_of_mem_splitText member inPart)⟩

theorem slashed_append (front back : String) :
    slashed (front ++ back) = slashed front ++ slashed back := by
  simp [slashed]

theorem slashed_pathText {names : List String} (plain : ∀ name ∈ names, '\\' ∉ name.toList) :
    slashed (pathText names) = pathText names := by
  apply slashed_eq_self
  rw [pathText, Text.mem_joinText (by decide)]
  rintro ⟨name, member, inName⟩
  exact plain name member inName

theorem getLast?_pathText {names : List String} {name : String}
    (named : ∀ part ∈ names ++ [name], IsName part) :
    (pathText (names ++ [name])).toList.getLast? ≠ some '/' := by
  have lastNamed := named name (by simp)
  have someChar : name.toList ≠ [] := by simpa using lastNamed.nonempty
  have endsWithName : ∃ front, (pathText (names ++ [name])).toList = front ++ name.toList := by
    by_cases nonempty : names = []
    · exact ⟨[], by simp [nonempty]⟩
    · refine ⟨(pathText names).toList ++ ['/'], ?_⟩
      rw [Scan.toList_pathText_append nonempty (by simp)]
      simp
  rcases endsWithName with ⟨front, chars⟩
  intro last
  rw [chars, List.getLast?_append, Option.or_of_isSome (by simpa using someChar)] at last
  exact lastNamed.no_slash (List.mem_of_getLast? last)

theorem throughLastSlash_append {front back : List Char} (noSlash : '/' ∉ back) :
    throughLastSlash (front ++ '/' :: back) = front ++ ['/'] := by
  have allOther : ∀ char ∈ back.reverse, decide (char ≠ '/') = true := by
    intro char member
    have inBack : char ∈ back := by simpa using member
    simpa using fun equal : char = '/' => noSlash (equal ▸ inBack)
  rw [throughLastSlash, List.reverse_append, List.reverse_cons, List.append_assoc,
    List.dropWhile_append_of_pos allOther]
  simp

private theorem stripTrailingSlashes_append {chars : List Char} (nonempty : chars ≠ [])
    (last : chars.getLast? ≠ some '/') : stripTrailingSlashes (chars ++ ['/']) = chars := by
  rcases List.eq_nil_or_concat chars with rfl | ⟨front, char, rfl⟩
  · exact absurd rfl nonempty
  · have notSlash : char ≠ '/' := by simpa using last
    simp [stripTrailingSlashes, notSlash]

theorem directoryName_pathText {names : List String} {name : String}
    (named : ∀ part ∈ names ++ [name], IsName part) :
    directoryName (pathText (names ++ [name])) = pathText names := by
  have noSlash := (named name (by simp)).no_slash
  rcases List.eq_nil_or_concat names with rfl | ⟨front, last, rfl⟩
  · have nothing : throughLastSlash name.toList = [] := by
      rw [throughLastSlash, List.reverse_eq_nil_iff, List.dropWhile_eq_nil_iff]
      intro char member
      have inName : char ∈ name.toList := by simpa using member
      simpa using fun equal : char = '/' => noSlash (equal ▸ inName)
    simp [directoryName, nothing, stripTrailingSlashes, pathText, Text.joinText, Text.join]
  · rw [List.concat_eq_append] at named ⊢
    have frontNamed : ∀ part ∈ front ++ [last], IsName part :=
      fun part member => named part (List.mem_append_left [name] member)
    rw [directoryName, Scan.toList_pathText_append (by simp) (by simp), Scan.pathText_singleton,
      throughLastSlash_append noSlash,
      stripTrailingSlashes_append (Scan.toList_pathText_ne_nil (by simp) frontNamed)
        (getLast?_pathText frontNamed), String.ofList_toList]

theorem join_pathText {names parts : List String} (named : ∀ name ∈ names, IsName name)
    (nonempty : parts ≠ []) (relative : (pathText parts).toList.head? ≠ some '/') :
    join (pathText names) (pathText parts) = pathText (names ++ parts) := by
  rw [join, if_neg relative]
  rcases List.eq_nil_or_concat names with rfl | ⟨front, last, rfl⟩
  · simp [pathText, Text.joinText, Text.join]
  · rw [List.concat_eq_append] at named ⊢
    have someChar := Scan.toList_pathText_ne_nil (by simp) named
    rw [if_neg]
    · apply String.toList_inj.mp
      rw [Scan.toList_pathText_append (by simp) nonempty]
      simp
    · rintro (isEmpty | last)
      · exact someChar (by simpa using isEmpty)
      · exact getLast?_pathText named last

/-! ## Joining to a directory -/

theorem directoryName_prefix (path : String) : (directoryName path).toList <+: path.toList := by
  have reversed : ∀ (condition : Char → Bool) (chars : List Char),
      (chars.reverse.dropWhile condition).reverse <+: chars := by
    intro condition chars
    rw [← List.reverse_suffix, List.reverse_reverse]
    exact List.dropWhile_suffix condition
  rw [directoryName, String.toList_ofList, stripTrailingSlashes]
  split
  · exact reversed _ path.toList
  · exact (reversed _ _).trans (reversed _ path.toList)

theorem head?_of_prefix {front chars : List Char} (before : front <+: chars) {char : Char}
    (first : front.head? = some char) : chars.head? = some char := by
  rcases before with ⟨back, rfl⟩
  simp [first]

theorem head?_slashed {path : String} (noSlash : path.toList.head? ≠ some '/')
    (noBackslash : path.toList.head? ≠ some '\\') : (slashed path).toList.head? ≠ some '/' := by
  rw [slashed, String.toList_ofList, List.head?_map]
  cases first : path.toList.head? with
  | none => simp
  | some char =>
      rw [first, ne_eq, Option.some.injEq] at noSlash noBackslash
      simp [noSlash, noBackslash]

theorem slashed_join {directory path : String} (plain : '\\' ∉ directory.toList)
    (noSlash : path.toList.head? ≠ some '/') (noBackslash : path.toList.head? ≠ some '\\') :
    slashed (join directory path) = join directory (slashed path) := by
  rw [join, join, if_neg noSlash, if_neg (head?_slashed noSlash noBackslash)]
  split
  · rw [slashed_append, slashed_eq_self plain]
  · rw [slashed_append, slashed_append, slashed_eq_self plain]
    rfl

theorem head?_join {directory path : String} (directoryRelative : directory.toList.head? ≠ some '/')
    (relative : path.toList.head? ≠ some '/') :
    (join directory path).toList.head? ≠ some '/' := by
  rw [join, if_neg relative]
  split
  · rw [String.toList_append, List.head?_append]
    cases first : directory.toList.head? with
    | none => simpa using relative
    | some char => simpa [first] using directoryRelative
  · rename_i nonempty
    have someChar : directory.toList ≠ [] := by simpa using fun isEmpty => nonempty (Or.inl isEmpty)
    rcases List.exists_cons_of_ne_nil someChar with ⟨char, rest, chars⟩
    simpa [chars] using directoryRelative

/-! ## Evaluation -/

theorem anchor_eq_empty {path : String} (relative : path.toList.head? ≠ some '/') :
    anchor path = "" := by
  unfold anchor
  split <;> simp_all

private theorem climb_name {absolute : Bool} {stack : List String} {name : String}
    (isName : IsName name) : climb absolute stack name = name :: stack := by
  simp [climb, isName.nonempty, isName.not_here, isName.not_above]

theorem foldl_climb_names {absolute : Bool} {names : List String}
    (named : ∀ name ∈ names, IsName name) (stack : List String) :
    names.foldl (climb absolute) stack = names.reverse ++ stack := by
  induction names generalizing stack with
  | nil => rfl
  | cons first rest induction =>
      rcases List.forall_mem_cons.mp named with ⟨firstNamed, restNamed⟩
      rw [List.foldl_cons, climb_name firstNamed, induction restNamed]
      simp

private theorem foldl_climb_up {absolute : Bool} {above : List String}
    (named : ∀ name ∈ above, IsName name) (stack : List String) :
    (List.replicate above.length "..").foldl (climb absolute) (above ++ stack) = stack := by
  induction above with
  | nil => rfl
  | cons first rest induction =>
      rcases List.forall_mem_cons.mp named with ⟨firstNamed, restNamed⟩
      have popped : climb absolute (first :: rest ++ stack) ".." = rest ++ stack := by
        simp [climb, firstNamed.not_above]
      rw [List.length_cons, List.replicate_succ, List.foldl_cons, popped, induction restNamed]

/-- Going up as often as there are names in front leaves what comes afterwards. -/
theorem collapse_up {absolute : Bool} {above names : List String}
    (aboveNamed : ∀ name ∈ above, IsName name) (named : ∀ name ∈ names, IsName name) :
    collapse absolute (above ++ "." :: (List.replicate above.length ".." ++ names)) = names := by
  have stay : ∀ stack, climb absolute stack "." = stack := fun _ => by simp [climb]
  have reversedNamed : ∀ name ∈ above.reverse, IsName name := by simpa using aboveNamed
  have up := @foldl_climb_up absolute above.reverse reversedNamed []
  rw [List.length_reverse] at up
  rw [collapse, List.foldl_append, foldl_climb_names aboveNamed, List.foldl_cons, stay,
    List.foldl_append, up, foldl_climb_names named, List.append_nil, List.reverse_reverse]

/-- The canonical form of a relative path that evaluates to names is the path of these names. -/
theorem normalize_pathText {parts names : List String} (nonempty : parts ≠ [])
    (noSlash : ∀ part ∈ parts, '/' ∉ part.toList)
    (plain : ∀ part ∈ parts, '\\' ∉ part.toList)
    (relative : (pathText parts).toList.head? ≠ some '/')
    (evaluated : collapse false parts = names) (someNames : names ≠ [])
    (named : ∀ name ∈ names, IsName name) : normalize (pathText parts) = pathText names := by
  have parted : components (pathText parts) = parts := Text.splitText_joinText nonempty noSlash
  have someText : Text.joinText "/" names ≠ "" := by
    simpa [pathText] using Scan.toList_pathText_ne_nil someNames named
  have atNothing : (!"".isEmpty) = false := by decide
  rw [normalize, slashed_pathText plain, canonical, anchor_eq_empty relative, parted]
  simp only [atNothing, evaluated, String.empty_append]
  rw [if_neg (by simpa using someText), pathText]

/-- A path of names is in canonical form, if a backslash does not stand for a slash. -/
theorem normalize_pathText_self {names : List String} (nonempty : names ≠ [])
    (named : ∀ name ∈ names, IsName name) (plain : '\\' ∉ (pathText names).toList) :
    normalize (pathText names) = pathText names := by
  have eachPlain : ∀ name ∈ names, '\\' ∉ name.toList := by
    intro name member inName
    exact plain ((Text.mem_joinText (by decide)).mpr ⟨name, member, inName⟩)
  have evaluated : collapse false names = names := by
    rw [collapse, foldl_climb_names named, List.append_nil, List.reverse_reverse]
  exact normalize_pathText nonempty (fun name member => (named name member).no_slash) eachPlain
    (Scan.head?_pathText nonempty named) evaluated nonempty named

/-! ## Characters of canonical paths -/

private theorem eq_slash_of_mem_anchor {path : String} {char : Char}
    (member : char ∈ (anchor path).toList) : char = '/' := by
  unfold anchor at member
  split at member <;> simp_all

private theorem mem_of_mem_climb {absolute : Bool} {stack : List String} {component part : String}
    (member : part ∈ climb absolute stack component) : part ∈ stack ∨ part = component := by
  unfold climb at member
  split at member
  · exact Or.inl member
  · split at member
    · exact (List.mem_cons.mp member).symm
    · rename_i isAbove
      have above : component = ".." := by simpa using isAbove
      split at member
      · split at member
        · cases member
        · exact Or.inr (above ▸ List.mem_singleton.mp member)
      · split at member
        · exact (List.mem_cons.mp member).elim (fun equal => Or.inr (above ▸ equal)) Or.inl
        · exact Or.inl (List.mem_cons_of_mem _ member)

theorem mem_of_mem_collapse {absolute : Bool} {parts : List String} {part : String}
    (member : part ∈ collapse absolute parts) : part ∈ parts := by
  have folded : ∀ stack, part ∈ parts.foldl (climb absolute) stack →
      part ∈ stack ∨ part ∈ parts := by
    clear member
    induction parts with
    | nil => exact fun _ => Or.inl
    | cons first rest induction =>
        intro stack inFold
        rcases induction _ inFold with inClimb | inRest
        · rcases mem_of_mem_climb inClimb with inStack | equal
          · exact Or.inl inStack
          · exact Or.inr (equal ▸ List.mem_cons_self)
        · exact Or.inr (List.mem_cons_of_mem first inRest)
  rw [collapse, List.mem_reverse] at member
  exact (folded [] member).resolve_left List.not_mem_nil

private theorem mem_of_mem_canonical {path : String} {char : Char} (notSlash : char ≠ '/')
    (notDot : char ≠ '.') (member : char ∈ (canonical path).toList) : char ∈ path.toList := by
  simp only [canonical] at member
  split at member
  · exact absurd (List.mem_singleton.mp member) notDot
  · rw [String.toList_append, List.mem_append] at member
    rcases member with inAnchor | inParts
    · exact absurd (eq_slash_of_mem_anchor inAnchor) notSlash
    · have apart : char ∉ "/".toList := by simpa using notSlash
      rcases (Text.mem_joinText apart).mp inParts with ⟨part, isPart, inPart⟩
      exact Text.mem_of_mem_splitText (mem_of_mem_collapse isPart) inPart

theorem backslash_not_mem_normalize (path : String) : '\\' ∉ (normalize path).toList := by
  intro member
  exact backslash_not_mem_slashed path (mem_of_mem_canonical (by decide) (by decide) member)

end ImportAtlas.Path
