import ImportAtlas.Proofs.Path.Location

/-! # Canonical paths

A path leads from its anchor to a position, and its canonical form is the text of this place. Main
statements: a path is its own canonical form exactly if there is nothing to evaluate in it, two
paths have the same canonical form exactly if they lead to the same place, and a directory can be
brought into canonical form before a path is joined to it.
-/

namespace ImportAtlas.Path

open Scan (pathText)

/-- A path with nothing to evaluate. It goes up only at its front, and not at all from an anchor. -/
inductive IsCanonical : String → Prop
  | here : IsCanonical "."
  | absolute {anchor : String} {names : List String} (isAnchor : anchor ∈ ["/", "//"])
      (ordinary : ∀ name ∈ names, IsOrdinary name) (noSlash : ∀ name ∈ names, '/' ∉ name.toList) :
      IsCanonical (anchor ++ pathText names)
  | relative (above : Nat) {names : List String}
      (nonempty : List.replicate above ".." ++ names ≠ [])
      (ordinary : ∀ name ∈ names, IsOrdinary name) (noSlash : ∀ name ∈ names, '/' ∉ name.toList) :
      IsCanonical (pathText (List.replicate above ".." ++ names))

/-! ## Anchors -/

private theorem anchor_eq_self : ∀ text ∈ ["", "/", "//"], anchor text = text := by
  decide

private theorem anchor_eq_empty_iff {path : String} :
    anchor path = "" ↔ path.toList.head? ≠ some '/' := by
  refine ⟨fun isEmpty first => ?_, anchor_eq_empty⟩
  rcases List.head?_eq_some_iff.mp first with ⟨rest, chars⟩
  unfold anchor at isEmpty
  split at isEmpty <;> simp_all

theorem anchor_append (front : String) {back : String} (relative : back.toList.head? ≠ some '/') :
    anchor (front ++ back) = anchor front := by
  by_cases isAnchor : front ∈ ["", "/", "//"]
  · rw [Location.anchor_append isAnchor relative, anchor_eq_self front isAnchor]
  · -- Any other text shows within its first three characters what its anchor is.
    have others : front.toList ≠ [] ∧ front.toList ≠ ['/'] ∧ front.toList ≠ ['/', '/'] := by
      refine ⟨fun chars => ?_, fun chars => ?_, fun chars => ?_⟩ <;>
      · rw [← String.ofList_toList (s := front), chars] at isAnchor
        revert isAnchor
        decide
    unfold anchor
    rw [String.toList_append]
    generalize front.toList = chars at others
    rcases chars with _ | ⟨first, _ | ⟨second, _ | ⟨third, rest⟩⟩⟩
    · exact absurd rfl others.1
    · simp_all
    · by_cases isFirst : first = '/' <;> simp_all
    · by_cases isFirst : first = '/' <;> by_cases isSecond : second = '/' <;>
        by_cases isThird : third = '/' <;> simp_all

private theorem anchor_join (directory : String) {path : String}
    (relative : path.toList.head? ≠ some '/') :
    anchor (join directory path) = anchor directory := by
  rw [join, if_neg relative]
  split
  · exact anchor_append directory relative
  · rename_i closed
    rw [not_or] at closed
    rcases List.eq_nil_or_concat directory.toList with nothing | ⟨front, last, chars⟩
    · exact absurd (by simpa using nothing) closed.1
    · -- The slash between the two stands behind a character that is none.
      have notSlash : last ≠ '/' := by
        intro isSlash
        exact closed.2 (by simp [chars, isSlash])
      have written : directory = String.ofList front ++ String.ofList [last] :=
        String.toList_inj.mp (by simp [chars])
      rw [written, String.append_assoc, String.append_assoc,
        anchor_append _ (by simpa using notSlash), anchor_append _ (by simpa using notSlash)]

/-! ## Positions below a top -/

namespace Position

def fromTop (position : Position) : Position := ⟨0, position.names, position.ordinary⟩

private theorem names_step_congr {left right : Position} (same : left.names = right.names)
    (component : String) : (left.step component).names = (right.step component).names := by
  unfold step
  split
  · simp [enter, same]
  · split
    · simp [up, same]
    · exact same

private theorem names_walk_congr {left right : Position} (same : left.names = right.names)
    (parts : List String) : (left.walk parts).names = (right.walk parts).names := by
  induction parts generalizing left right with
  | nil => exact same
  | cons first rest induction => exact induction (names_step_congr same first)

private theorem fromTop_of_above {position : Position} (atTop : position.above = 0) :
    position.fromTop = position := by
  rcases position with ⟨above, names, ordinary⟩
  obtain rfl : above = 0 := atTop
  rfl

private theorem isPlain_fromTop {position : Position} (plain : position.IsPlain) :
    position.fromTop.IsPlain := plain

private theorem walk_fromTop (position : Position) (parts : List String) :
    (position.fromTop.walk parts).fromTop = (position.walk parts).fromTop := by
  have sameNames : (position.fromTop.walk parts).names = (position.walk parts).names :=
    @names_walk_congr position.fromTop position rfl parts
  unfold fromTop at sameNames ⊢
  simp only [sameNames]

private theorem climb_top (position : Position) (component : String) :
    climb true position.names.reverse component = (position.step component).names.reverse := by
  by_cases isOrdinary : IsOrdinary component
  · simp [step_of_isOrdinary position isOrdinary, enter, climb, isOrdinary.nonempty,
      isOrdinary.not_here, isOrdinary.not_above]
  · by_cases isAbove : component = ".."
    · subst isAbove
      rcases List.eq_nil_or_concat position.names with nothing | ⟨front, last, written⟩
      · simp [nothing, climb, up]
      · have lastOrdinary := position.ordinary last (by simp [written])
        simp [written, climb, up, lastOrdinary.not_above]
    · have stays : component = "" ∨ component = "." := by
        by_contra neither
        rw [not_or] at neither
        exact isOrdinary ⟨neither.1, neither.2, isAbove⟩
      rcases stays with rfl | rfl <;> simp [climb]

private theorem collapse_top (parts : List String) :
    collapse true parts = (here.walk parts).names := by
  have folded := @List.foldl_hom _ _ _ (fun position : Position => position.names.reverse) step
    (climb true) parts here climb_top
  rw [show here.names.reverse = [] from rfl] at folded
  rw [collapse, folded, List.reverse_reverse, walk]

end Position

/-! ## Places -/

/-- A position as it is seen from an anchor. Nothing lies above an anchor, unless it is empty. -/
@[ext] structure Place where
  anchor : String
  position : Position
  anchor_mem : anchor ∈ ["", "/", "//"]
  grounded : anchor ≠ "" → position.above = 0

namespace Place

def text (place : Place) : String :=
  if place.anchor = "" then place.position.text else place.anchor ++ pathText place.position.names

def walk (place : Place) (parts : List String) : Place where
  anchor := place.anchor
  position :=
    if place.anchor = "" then place.position.walk parts else (place.position.walk parts).fromTop
  anchor_mem := place.anchor_mem
  grounded absolute := by rw [if_neg absolute, Position.fromTop]

theorem position_walk (place : Place) (parts : List String) :
    (place.walk parts).position =
      if place.anchor = "" then place.position.walk parts
      else (place.position.walk parts).fromTop := rfl

end Place

/-- The place to which a path leads. -/
def place (path : String) : Place :=
  Place.walk ⟨anchor path, .here, Location.anchor_mem path, fun _ => rfl⟩ (components path)

@[simp] theorem anchor_place (path : String) : (place path).anchor = anchor path := rfl

theorem position_place (path : String) : (place path).position =
    if anchor path = "" then Position.here.walk (components path)
    else (Position.here.walk (components path)).fromTop :=
  Place.position_walk _ _

private theorem canonical_eq_text (path : String) : canonical path = (place path).text := by
  by_cases relative : anchor path = ""
  · rw [Position.canonical_eq (anchor_eq_empty_iff.mp relative), Place.text, anchor_place,
      position_place, if_pos relative, if_pos relative]
  · have isAbsolute : (!(anchor path).isEmpty) = true := by simpa using relative
    have someText : ¬(anchor path ++
        pathText (Position.here.walk (components path)).names).isEmpty = true := by
      rw [String.isEmpty_iff, String.append_eq_empty_iff]
      exact fun isEmpty => relative isEmpty.1
    rw [pathText] at someText
    simp only [canonical, isAbsolute, Position.collapse_top]
    rw [if_neg someText, Place.text, anchor_place, position_place, if_neg relative,
      if_neg relative, Position.fromTop, pathText]

private theorem place_join (directory : String) {path : String}
    (relative : path.toList.head? ≠ some '/') :
    place (join directory path) = (place directory).walk (components path) := by
  have sameAnchor := anchor_join directory relative
  apply Place.ext
  · exact sameAnchor
  · rw [position_place, sameAnchor, Position.walk_components_join .here directory relative,
      Place.position_walk, anchor_place, position_place]
    by_cases isRelative : anchor directory = ""
    · simp only [if_pos isRelative]
    · simp only [if_neg isRelative, Position.walk_fromTop]

/-! ## Texts of places -/

theorem isPlain_place (path : String) : (place (slashed path)).position.IsPlain := by
  have walked : (Position.here.walk (components (slashed path))).IsPlain :=
    Position.isPlain_walk fun _ => plain_of_mem_components_slashed
  rw [position_place]
  split
  · exact walked
  · exact Position.isPlain_fromTop walked

private theorem head?_pathText_names {position : Position} (plain : position.IsPlain) :
    (pathText position.names).toList.head? ≠ some '/' := by
  cases names : position.names with
  | nil => decide
  | cons first rest =>
      have isFirst : first ∈ position.names := names ▸ List.mem_cons_self
      exact Scan.head?_pathText_cons (position.ordinary first isFirst).nonempty
        (plain first isFirst).1 rest

private theorem walk_components_anchor (position : Position) {text path : String}
    (isAnchor : text ∈ ["", "/", "//"]) (relative : path.toList.head? ≠ some '/') :
    position.walk (components (text ++ path)) = position.walk (components path) := by
  rw [← Location.walk_parts_ofText, Location.ofText_append isAnchor relative,
    Location.walk_parts_ofText]

private theorem walk_components_names {position : Position} (plain : position.IsPlain) :
    Position.here.walk (components (pathText position.names)) = position.fromTop := by
  by_cases nothing : position.names = []
  · have written : pathText position.names = "" := by
      rw [nothing]
      rfl
    rw [written, components_empty, Position.walk_cons, Position.step_empty, Position.walk_nil]
    simp only [Position.fromTop, nothing]
    rfl
  · have parted : components (pathText position.names) = position.names :=
      Text.splitText_joinText nothing fun name member => (plain name member).1
    rw [parted, Position.walk_names _ position.ordinary]
    rfl

theorem place_text {target : Place} (plain : target.position.IsPlain) :
    place target.text = target := by
  by_cases relative : target.anchor = ""
  · have noAnchor : anchor target.position.text = "" := anchor_eq_empty (Position.head?_text plain)
    rw [Place.text, if_pos relative]
    apply Place.ext
    · rw [anchor_place, noAnchor, relative]
    · rw [position_place, if_pos noAnchor, Position.walk_components_text plain]
  · have namesRelative := head?_pathText_names plain
    have sameAnchor : anchor (target.anchor ++ pathText target.position.names) = target.anchor :=
      Location.anchor_append target.anchor_mem namesRelative
    rw [Place.text, if_neg relative]
    apply Place.ext
    · exact sameAnchor
    · rw [position_place, sameAnchor, if_neg relative,
        walk_components_anchor .here target.anchor_mem namesRelative, walk_components_names plain]
      exact Position.fromTop_of_above (target.grounded relative)

private theorem isCanonical_text {target : Place} (plain : target.position.IsPlain) :
    IsCanonical target.text := by
  have noSlash : ∀ name ∈ target.position.names, '/' ∉ name.toList :=
    fun name member => (plain name member).1
  rw [Place.text]
  split
  · rw [Position.text]
    split
    · exact .here
    · rename_i someComponents
      exact .relative target.position.above someComponents target.position.ordinary noSlash
  · rename_i absolute
    have isAnchor : target.anchor ∈ ["/", "//"] := by simpa [absolute] using target.anchor_mem
    exact .absolute isAnchor target.position.ordinary noSlash

private theorem IsCanonical.exists_place {path : String} (isCanonical : IsCanonical path)
    (plain : '\\' ∉ path.toList) :
    ∃ target : Place, target.position.IsPlain ∧ target.text = path := by
  cases isCanonical with
  | here =>
      exact ⟨⟨"", .here, by decide, fun _ => rfl⟩, nofun, rfl⟩
  | @absolute anchorText names isAnchor ordinary noSlash =>
      have absolute : anchorText ≠ "" := by
        rintro rfl
        exact absurd isAnchor (by decide)
      refine ⟨⟨anchorText, ⟨0, names, ordinary⟩, List.mem_cons_of_mem _ isAnchor, fun _ => rfl⟩,
        fun name member => ⟨noSlash name member, fun inName => plain ?_⟩, if_neg absolute⟩
      rw [String.toList_append, List.mem_append]
      exact Or.inr ((Text.mem_joinText (by decide)).mpr ⟨name, member, inName⟩)
  | @relative above names nonempty ordinary noSlash =>
      refine ⟨⟨"", ⟨above, names, ordinary⟩, by decide, fun absolute => absurd rfl absolute⟩,
        fun name member => ⟨noSlash name member, fun inName => plain ?_⟩, ?_⟩
      · exact (Text.mem_joinText (by decide)).mpr
          ⟨name, List.mem_append_right _ member, inName⟩
      · rw [Place.text, if_pos rfl, Position.text]
        exact if_neg nonempty

/-! ## Canonical forms -/

theorem normalize_eq_text (path : String) : normalize path = (place (slashed path)).text :=
  canonical_eq_text (slashed path)

theorem normalize_text {target : Place} (plain : target.position.IsPlain)
    (noBackslash : '\\' ∉ target.text.toList) : normalize target.text = target.text := by
  rw [normalize_eq_text, slashed_eq_self noBackslash, place_text plain]

theorem place_normalize (path : String) : place (normalize path) = place (slashed path) := by
  rw [normalize_eq_text, place_text (isPlain_place path)]

theorem isCanonical_normalize (path : String) : IsCanonical (normalize path) := by
  rw [normalize_eq_text]
  exact isCanonical_text (isPlain_place path)

private theorem normalize_eq_self_iff_isCanonical {path : String} :
    normalize path = path ↔ '\\' ∉ path.toList ∧ IsCanonical path := by
  constructor
  · intro unchanged
    rw [← unchanged]
    exact ⟨backslash_not_mem_normalize path, isCanonical_normalize path⟩
  · rintro ⟨plain, isCanonical⟩
    rcases isCanonical.exists_place plain with ⟨target, isPlain, rfl⟩
    exact normalize_text isPlain plain

private theorem normalize_eq_iff {left right : String} :
    normalize left = normalize right ↔ place (slashed left) = place (slashed right) := by
  constructor
  · intro same
    rw [← place_normalize, same, place_normalize]
  · intro same
    rw [normalize_eq_text, same, ← normalize_eq_text]

private theorem normalize_join {directory path : String} (plain : '\\' ∉ directory.toList)
    (pathPlain : '\\' ∉ path.toList) (relative : path.toList.head? ≠ some '/') :
    normalize (join directory path) = ((place directory).walk (components path)).text := by
  have noBackslash : path.toList.head? ≠ some '\\' :=
    fun first => pathPlain (List.mem_of_head? first)
  rw [normalize_eq_text, slashed_join plain relative noBackslash, slashed_eq_self pathPlain,
    place_join directory relative]

/-- The canonical form of a path has nothing to evaluate in it, and whatever has nothing to evaluate
in it is its own canonical form. Two paths have the same canonical form exactly if they lead to the
same place, and a path that is joined to a directory leads to the same place as when it is joined to
the canonical form of the directory. -/
theorem normalize_isCanonicalForm :
    (∀ path, '\\' ∉ (normalize path).toList ∧ normalize (normalize path) = normalize path ∧
      IsCanonical (normalize path)) ∧
    (∀ path, normalize path = path ↔ '\\' ∉ path.toList ∧ IsCanonical path) ∧
    (∀ left right, normalize left = normalize right ↔
      place (slashed left) = place (slashed right)) ∧
    ∀ directory path, '\\' ∉ directory.toList → '\\' ∉ path.toList →
      path.toList.head? ≠ some '/' →
        normalize (join directory path) = normalize (join (normalize directory) path) := by
  refine ⟨fun path => ?_, fun _ => normalize_eq_self_iff_isCanonical, fun _ _ => normalize_eq_iff,
    ?_⟩
  · have noBackslash := backslash_not_mem_normalize path
    have isCanonical := isCanonical_normalize path
    exact ⟨noBackslash, normalize_eq_self_iff_isCanonical.mpr ⟨noBackslash, isCanonical⟩,
      isCanonical⟩
  · intro directory path plain pathPlain relative
    rw [normalize_join plain pathPlain relative,
      normalize_join (backslash_not_mem_normalize directory) pathPlain relative, place_normalize,
      slashed_eq_self plain]

theorem normalize_isCanonicalForm_climbed :
    normalize "///a//../.." = "/" ∧ normalize "a/../../b/." = "../b" ∧
      normalize (join "//x/./y" "../../../z") =
        normalize (join (normalize "//x/./y") "../../../z") := by
  rcases normalize_isCanonicalForm with ⟨_, _, _, joined⟩
  exact ⟨by decide +kernel, by decide +kernel, joined _ _ (by decide) (by decide) (by decide)⟩

end ImportAtlas.Path
