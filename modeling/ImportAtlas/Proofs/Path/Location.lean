import ImportAtlas.Path.Location
import ImportAtlas.Proofs.Path.Position

/-! # Texts of locations

A location is read from a text and written as one. Main statements: what is written is read back as
the same location, and writing a relative text anew does not change its canonical form.
-/

namespace ImportAtlas.Location

/-! ## Reading and writing -/

/-- A location as it can be read from a text. -/
structure IsRead (location : Location) : Prop where
  anchor_mem : location.anchor ∈ ["", "/", "//"]
  nonempty : ∀ part ∈ location.parts, part ≠ ""
  not_here : ∀ part ∈ location.parts, part ≠ "."
  no_slash : ∀ part ∈ location.parts, '/' ∉ part.toList

theorem anchor_mem (text : String) : Path.anchor text ∈ ["", "/", "//"] := by
  unfold Path.anchor
  split <;> simp

theorem isRead_ofText (text : String) : (ofText text).IsRead where
  anchor_mem := anchor_mem text
  nonempty part member := by simpa using (of_decide_eq_true (List.mem_filter.mp member).2).1
  not_here part member := by simpa using (of_decide_eq_true (List.mem_filter.mp member).2).2
  no_slash part member := Path.slash_not_mem_of_mem_components (List.mem_filter.mp member).1

theorem IsRead.append {base next : Location} (baseRead : base.IsRead) (nextRead : next.IsRead) :
    (base.append next).IsRead := by
  unfold Location.append
  split
  · exact nextRead
  · exact ⟨baseRead.anchor_mem,
      List.forall_mem_append.mpr ⟨baseRead.nonempty, nextRead.nonempty⟩,
      List.forall_mem_append.mpr ⟨baseRead.not_here, nextRead.not_here⟩,
      List.forall_mem_append.mpr ⟨baseRead.no_slash, nextRead.no_slash⟩⟩

theorem IsRead.child {base : Location} (isRead : base.IsRead) (text : String) :
    (base.child text).IsRead :=
  isRead.append (isRead_ofText text)

theorem anchor_append {anchor path : String} (isAnchor : anchor ∈ ["", "/", "//"])
    (relative : path.toList.head? ≠ some '/') : Path.anchor (anchor ++ path) = anchor := by
  unfold Path.anchor
  rw [String.toList_append]
  simp only [List.mem_cons, List.not_mem_nil, or_false] at isAnchor
  rcases isAnchor with rfl | rfl | rfl <;> cases chars : path.toList <;> simp_all

theorem ofText_append {anchor path : String} (isAnchor : anchor ∈ ["", "/", "//"])
    (relative : path.toList.head? ≠ some '/') :
    ofText (anchor ++ path) = ⟨anchor, (ofText path).parts⟩ := by
  have sameParts : (ofText (anchor ++ path)).parts = (ofText path).parts := by
    have single : Path.components ("/" ++ path) = "" :: Path.components path :=
      Path.components_append "" path
    have double : Path.components ("//" ++ path) = "" :: "" :: Path.components path :=
      Path.components_append "/" path
    simp only [List.mem_cons, List.not_mem_nil, or_false] at isAnchor
    rcases isAnchor with rfl | rfl | rfl
    · rw [String.empty_append]
    · simp [ofText, single]
    · simp [ofText, double]
  exact congrArg₂ Location.mk (anchor_append isAnchor relative) sameParts

section Read

variable {location : Location} (isRead : location.IsRead)
include isRead

theorem IsRead.head?_joinText : (Text.joinText "/" location.parts).toList.head? ≠ some '/' := by
  cases parts : location.parts with
  | nil => decide
  | cons first rest =>
      have isPart : first ∈ location.parts := parts ▸ List.mem_cons_self
      exact Scan.head?_pathText_cons (isRead.nonempty first isPart) (isRead.no_slash first isPart)
        rest

private theorem IsRead.parts_ofText_joinText :
    (ofText (Text.joinText "/" location.parts)).parts = location.parts := by
  by_cases noParts : location.parts = []
  · rw [noParts]
    decide
  · have allKept : location.parts.filter (fun part => part ≠ "" ∧ part ≠ ".") = location.parts := by
      rw [List.filter_eq_self]
      intro part member
      simp [isRead.nonempty part member, isRead.not_here part member]
    have components : Path.components (Text.joinText "/" location.parts) = location.parts :=
      Text.splitText_joinText noParts isRead.no_slash
    rw [ofText, components, allKept]

theorem IsRead.text_cases : location = ⟨"", []⟩ ∨
    location.text = location.anchor ++ Text.joinText "/" location.parts := by
  rw [text]
  split
  · rename_i isEmpty
    have nothing := String.append_eq_empty_iff.mp (String.isEmpty_iff.mp isEmpty)
    rcases location with ⟨anchor, parts⟩
    cases parts with
    | nil => exact Or.inl (congrArg (Location.mk · []) nothing.1)
    | cons first rest =>
        exact absurd nothing.2
          (Path.Position.pathText_cons_ne_empty (isRead.nonempty first List.mem_cons_self) rest)
  · exact Or.inr rfl

theorem IsRead.ofText_text : ofText location.text = location := by
  rcases isRead.text_cases with rfl | written
  · decide +kernel
  · rw [written, ofText_append isRead.anchor_mem isRead.head?_joinText,
      isRead.parts_ofText_joinText]

end Read

/-! ## Relative texts -/

private theorem walk_filter (position : Path.Position) (parts : List String) :
    position.walk (parts.filter fun part => part ≠ "" ∧ part ≠ ".") = position.walk parts := by
  induction parts generalizing position with
  | nil => rfl
  | cons first rest induction =>
      by_cases kept : first ≠ "" ∧ first ≠ "."
      · rw [List.filter_cons_of_pos (by simpa using kept), Path.Position.walk_cons, induction,
          Path.Position.walk_cons]
      · have stays : position.step first = position := by
          rw [not_and_or, not_not, not_not] at kept
          rcases kept with rfl | rfl <;> simp
        rw [List.filter_cons_of_neg (by simpa using kept), induction, Path.Position.walk_cons,
          stays]

theorem walk_parts_ofText (position : Path.Position) (text : String) :
    position.walk (ofText text).parts = position.walk (Path.components text) :=
  walk_filter position (Path.components text)

theorem anchor_ofText {text : String} (relative : text.toList.head? ≠ some '/') :
    (ofText text).anchor = "" :=
  Path.anchor_eq_empty relative

private theorem head?_text_ofText {text : String} (relative : text.toList.head? ≠ some '/') :
    (ofText text).text.toList.head? ≠ some '/' := by
  rcases (isRead_ofText text).text_cases with isHere | written
  · rw [isHere]
    decide
  · rw [written, anchor_ofText relative, String.empty_append]
    exact (isRead_ofText text).head?_joinText

private theorem canonical_text_ofText {text : String} (relative : text.toList.head? ≠ some '/') :
    Path.canonical (ofText text).text = Path.canonical text := by
  rw [Path.Position.canonical_eq relative,
    Path.Position.canonical_eq (head?_text_ofText relative), ← walk_parts_ofText,
    (isRead_ofText text).ofText_text, walk_parts_ofText]

theorem normalize_text_ofText {text : String} (relative : text.toList.head? ≠ some '/')
    (plain : '\\' ∉ text.toList) : Path.normalize (ofText text).text = Path.normalize text := by
  have stillPlain : '\\' ∉ (ofText text).text.toList :=
    mt (mem_of_mem_text_ofText (by decide) (by decide)) plain
  rw [Path.normalize, Path.normalize, Path.slashed_eq_self plain, Path.slashed_eq_self stillPlain,
    canonical_text_ofText relative]

/-! ## Absolute locations -/

private theorem collapse_parts_ofText (absolute : Bool) (text : String) :
    Path.collapse absolute (ofText text).parts = Path.collapse absolute (Path.components text) := by
  have skips : (fun stack part => if part ≠ "" ∧ part ≠ "." then Path.climb absolute stack part
      else stack) = Path.climb absolute := by
    funext stack part
    by_cases dropped : part = "" ∨ part = "."
    · rcases dropped with rfl | rfl <;> rfl
    · rw [if_pos (not_or.mp dropped)]
  simp only [Path.collapse, ofText, List.foldl_filter, decide_eq_true_eq, skips]

theorem ofText_canonical_text {location : Location} (isAnchor : location.anchor ∈ ["/", "//"])
    (named : ∀ part ∈ location.parts, IsName part) :
    ofText (Path.canonical location.text) = location := by
  have isRead : location.IsRead :=
    ⟨List.mem_cons_of_mem _ isAnchor, fun part member => (named part member).nonempty,
      fun part member => (named part member).not_here,
      fun part member => (named part member).no_slash⟩
  have absolute : location.anchor ≠ "" := by
    intro isEmpty
    rw [isEmpty] at isAnchor
    exact absurd isAnchor (by decide)
  have written : location.text = location.anchor ++ Text.joinText "/" location.parts := by
    rcases isRead.text_cases with rfl | written
    · exact absurd rfl absolute
    · exact written
  have sameAnchor : Path.anchor location.text = location.anchor := by
    rw [written, anchor_append isRead.anchor_mem isRead.head?_joinText]
  have sameParts : Path.collapse true (Path.components location.text) = location.parts := by
    rw [← collapse_parts_ofText, isRead.ofText_text, Path.collapse, Path.foldl_climb_names named,
      List.append_nil, List.reverse_reverse]
  have isAbsolute : (!location.anchor.isEmpty) = true := by
    simpa using absolute
  have someText : ¬location.text.isEmpty = true := by
    rw [written, String.isEmpty_iff, String.append_eq_empty_iff]
    exact fun isEmpty => absolute isEmpty.1
  have canonical : Path.canonical location.text = location.text := by
    simp only [Path.canonical, sameAnchor, isAbsolute, sameParts, ← written, if_neg someText]
  rw [canonical, isRead.ofText_text]

/-! ## Locations behind others -/

/-- The components of a location, its anchor in front. -/
def components (location : Location) : List String :=
  location.anchor :: location.parts

/-- A location is relative to another one exactly if it has its components in front. -/
theorem relativeTo?_eq_none_iff {location base : Location} :
    location.relativeTo? base = none ↔ ¬base.components <+: location.components := by
  have same : base.components <+: location.components ↔
      location.anchor = base.anchor ∧ base.parts.isPrefixOf location.parts = true := by
    rw [components, components, List.cons_prefix_cons, List.isPrefixOf_iff_prefix, eq_comm]
  rw [relativeTo?, same]
  split <;> simp_all

theorem append_eq {base next : Location} (relative : next.anchor = "") :
    base.append next = ⟨base.anchor, base.parts ++ next.parts⟩ := by
  have notAbsolute : next.isAbsolute = false := by
    rw [isAbsolute, relative]
    rfl
  simp [append, notAbsolute]

theorem relativeTo?_append {base next : Location} (relative : next.anchor = "") :
    (base.append next).relativeTo? base = some next := by
  rw [append_eq relative]
  rcases next with ⟨anchor, parts⟩
  obtain rfl : anchor = "" := relative
  simp [relativeTo?]

end ImportAtlas.Location
