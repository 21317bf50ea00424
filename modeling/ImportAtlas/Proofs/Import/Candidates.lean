import ImportAtlas.Import.Resolve
import ImportAtlas.Proofs.Path.Position
import Mathlib.Data.List.Nodup

/-! # Candidates of a target

A relative target leads from the directory of the importing file to a position, and the candidates
are positions beside and below it. Main statement: they are in canonical form and different from one
another, and they all lie outside the project if the target leads there.
-/

namespace ImportAtlas

namespace Import

open ImportAtlas.Path (Position IsOrdinary)

/-- Where a target leads from the directory of the importing file. -/
def destination (target importer : String) : Position :=
  Position.here.walk ((Path.components (Path.slashed importer)).dropLast ++
    Path.components (Path.slashed target))

theorem isPlain_destination (target importer : String) : (destination target importer).IsPlain := by
  apply Position.isPlain_walk
  intro part member
  rcases List.mem_append.mp member with inImporter | inTarget
  · exact Path.plain_of_mem_components_slashed ((List.dropLast_sublist _).mem inImporter)
  · exact Path.plain_of_mem_components_slashed inTarget

private theorem basePath_eq {target importer : String} (relative : isRelative target = true)
    (importerRelative : (Path.slashed importer).toList.head? ≠ some '/') :
    basePath target importer = (destination target importer).text := by
  have first : target.toList.head? = some '.' := by simpa [isRelative] using relative
  have noSlash : target.toList.head? ≠ some '/' := by simp [first]
  have noBackslash : target.toList.head? ≠ some '\\' := by simp [first]
  have before := Path.directoryName_prefix (Path.slashed importer)
  have plain : '\\' ∉ (Path.directoryName (Path.slashed importer)).toList :=
    fun member => Path.backslash_not_mem_slashed importer (before.subset member)
  have directoryRelative :
      (Path.directoryName (Path.slashed importer)).toList.head? ≠ some '/' :=
    fun isFirst => importerRelative (Path.head?_of_prefix before isFirst)
  have targetRelative := Path.head?_slashed noSlash noBackslash
  rw [basePath, Path.normalize, Path.slashed_join plain noSlash noBackslash,
    Position.canonical_eq (Path.head?_join directoryRelative targetRelative),
    Position.walk_components_join _ _ targetRelative, Position.walk_components_directoryName,
    ← Position.walk_append, destination]

end Import

/-! ## Positions beside and below another one -/

namespace Path.Position

open Scan (pathText)

variable {position : Position}

def withExtension (position : Position) (extension : String) : Position where
  above := position.above
  names := position.names.dropLast ++
    (position.names.getLast?.map (· ++ "." ++ extension)).toList
  ordinary := by
    intro name member
    rcases List.mem_append.mp member with inFront | isLast
    · exact position.ordinary name ((List.dropLast_sublist _).mem inFront)
    · rw [Option.mem_toList, Option.map_eq_some_iff] at isLast
      rcases isLast with ⟨last, found, rfl⟩
      exact (position.ordinary last (List.mem_of_getLast? found)).append_dot extension

theorem isOrdinary_index (extension : String) : IsOrdinary ("index." ++ extension) :=
  .of_length (by simp)

def withIndex (position : Position) (extension : String) : Position :=
  position.enter ("index." ++ extension) (isOrdinary_index extension)

theorem exists_last (someNames : position.names ≠ []) :
    ∃ front last, position.names = front ++ [last] ∧ IsOrdinary last ∧
      ∀ extension, (position.withExtension extension).names =
        front ++ [last ++ "." ++ extension] := by
  rcases List.eq_nil_or_concat position.names with nothing | ⟨front, last, written⟩
  · exact absurd nothing someNames
  · rw [List.concat_eq_append] at written
    exact ⟨front, last, written, position.ordinary last (by simp [written]),
      fun extension => by simp [withExtension, written]⟩

private theorem text_of_names {front : List String} {last : String}
    (written : position.names = front ++ [last]) :
    position.text = pathText (List.replicate position.above ".." ++ front ++ [last]) := by
  rw [text, components, written, if_neg (by simp), List.append_assoc]

theorem text_withExtension (someNames : position.names ≠ []) (extension : String) :
    (position.withExtension extension).text = position.text ++ "." ++ extension := by
  rcases exists_last someNames with ⟨front, last, written, _, extended⟩
  have sameLevel : (position.withExtension extension).above = position.above := rfl
  rw [text_of_names written, text_of_names (extended extension), sameLevel, String.append_assoc,
    String.append_assoc, Scan.pathText_concat_append]

theorem text_enter (someComponents : position.components ≠ []) {name : String}
    (isOrdinary : IsOrdinary name) :
    (position.enter name isOrdinary).text = position.text ++ "/" ++ name := by
  rw [text, text, components_enter, if_neg someComponents, if_neg (by simp)]
  apply String.toList_inj.mp
  rw [Scan.toList_pathText_append someComponents (by simp)]
  simp

theorem isPlain_withExtension (plain : position.IsPlain) {extension : String}
    (noSlash : '/' ∉ extension.toList) (noBackslash : '\\' ∉ extension.toList) :
    (position.withExtension extension).IsPlain := by
  intro name member
  rcases List.mem_append.mp member with inFront | isLast
  · exact plain name ((List.dropLast_sublist _).mem inFront)
  · rw [Option.mem_toList, Option.map_eq_some_iff] at isLast
    rcases isLast with ⟨last, found, rfl⟩
    have lastPlain := plain last (List.mem_of_getLast? found)
    simp [lastPlain, noSlash, noBackslash]

theorem isPlain_withIndex (plain : position.IsPlain) {extension : String}
    (noSlash : '/' ∉ extension.toList) (noBackslash : '\\' ∉ extension.toList) :
    (position.withIndex extension).IsPlain := by
  refine List.forall_mem_append.mpr ⟨plain, List.forall_mem_singleton.mpr ?_⟩
  simp [noSlash, noBackslash]

theorem normalize_join_text (plain : position.IsPlain) {name : String}
    (isOrdinary : IsOrdinary name) (noSlash : '/' ∉ name.toList)
    (noBackslash : '\\' ∉ name.toList) :
    normalize (join position.text name) = (position.enter name isOrdinary).text := by
  have relative : name.toList.head? ≠ some '/' := fun first => noSlash (List.mem_of_head? first)
  have noBackslashFirst : name.toList.head? ≠ some '\\' :=
    fun first => noBackslash (List.mem_of_head? first)
  have textPlain : '\\' ∉ position.text.toList := by
    rw [← slashed_text plain]
    exact backslash_not_mem_slashed _
  rw [normalize, slashed_join textPlain relative noBackslashFirst, slashed_eq_self noBackslash,
    canonical_eq (head?_join (head?_text plain) relative), walk_components_join _ _ relative,
    walk_components_text plain, components_of_not_mem noSlash, walk_cons, walk_nil,
    step_of_isOrdinary position isOrdinary]

theorem withExtension_injective (someNames : position.names ≠ []) :
    Function.Injective position.withExtension := by
  intro left right equal
  rcases exists_last someNames with ⟨front, last, _, _, extended⟩
  have names := congrArg Position.names equal
  rw [extended, extended, List.append_cancel_left_eq, List.singleton_inj] at names
  exact String.toList_inj.mp (by simpa using congrArg String.toList names)

theorem withIndex_injective : Function.Injective position.withIndex := by
  intro left right equal
  have names := congrArg Position.names equal
  rw [withIndex, withIndex, enter, enter, List.append_cancel_left_eq, List.singleton_inj] at names
  exact String.toList_inj.mp (by simpa using congrArg String.toList names)

end Path.Position

/-! ## Positions to try -/

namespace Import

open ImportAtlas.Path (Position IsOrdinary)

variable {position : Position}

/-- The positions of a file, of the same file with an extension, and of an index file inside it. One
that leads only upwards is no file, so it gets no extension. -/
def tries (position : Position) : List Position :=
  position ::
    (if position.names = [] then [] else resolutionExtensions.map position.withExtension) ++
      resolutionExtensions.map position.withIndex

theorem baseName_text (plain : position.IsPlain) :
    (Path.baseName position.text = "." ∨ Path.baseName position.text = "..") ↔
      position.names = [] := by
  rw [Path.baseName, Position.components_text plain]
  by_cases someNames : position.names = []
  · rw [Position.components, someNames]
    cases position.above <;> simp [List.replicate_succ']
  · rcases Position.exists_last someNames with ⟨front, last, written, isOrdinary, _⟩
    simp [Position.components, written, isOrdinary.not_here, isOrdinary.not_above]

private theorem candidatesAt_text (plain : position.IsPlain) :
    candidatesAt position.text = (tries position).map Position.text := by
  have indexes : resolutionExtensions.map (fun extension =>
      Path.normalize (Path.join position.text ("index." ++ extension))) =
        (resolutionExtensions.map position.withIndex).map Position.text := by
    rw [List.map_map]
    refine List.map_congr_left fun extension member => ?_
    have clean : '/' ∉ ("index." ++ extension).toList ∧ '\\' ∉ ("index." ++ extension).toList := by
      revert extension
      decide
    exact Position.normalize_join_text plain (Position.isOrdinary_index extension) clean.1 clean.2
  have files : (if isDirectoryName position.text then []
        else resolutionExtensions.map fun extension => position.text ++ "." ++ extension) =
      (if position.names = [] then []
        else resolutionExtensions.map position.withExtension).map Position.text := by
    by_cases someNames : position.names = []
    · have isDirectory : isDirectoryName position.text = true := by
        simpa [isDirectoryName] using (baseName_text plain).mpr someNames
      rw [if_pos isDirectory, if_pos someNames, List.map_nil]
    · have isFile : ¬isDirectoryName position.text = true := by
        simpa [isDirectoryName] using mt (baseName_text plain).mp someNames
      rw [if_neg isFile, if_neg someNames, List.map_map]
      exact List.map_congr_left fun extension _ =>
        (Position.text_withExtension someNames extension).symm
  rw [tries, List.cons_append, List.map_cons, List.map_append, ← files, ← indexes]
  rfl

theorem tries_cases {candidate : Position} (member : candidate ∈ tries position) :
    candidate = position ∨ ∃ extension ∈ resolutionExtensions,
      candidate = position.withExtension extension ∨ candidate = position.withIndex extension := by
  rcases List.mem_cons.mp member with isBase | further
  · exact Or.inl isBase
  · right
    rcases List.mem_append.mp further with isFile | isIndex
    · split at isFile
      · cases isFile
      · rcases List.mem_map.mp isFile with ⟨extension, inExtensions, equal⟩
        exact ⟨extension, inExtensions, Or.inl equal.symm⟩
    · rcases List.mem_map.mp isIndex with ⟨extension, inExtensions, equal⟩
      exact ⟨extension, inExtensions, Or.inr equal.symm⟩

theorem isPlain_of_mem_tries (plain : position.IsPlain) :
    ∀ candidate ∈ tries position, candidate.IsPlain := by
  have clean : ∀ extension ∈ resolutionExtensions,
      '/' ∉ extension.toList ∧ '\\' ∉ extension.toList := by decide
  intro candidate member
  rcases tries_cases member with rfl | ⟨extension, inExtensions, rfl | rfl⟩
  · exact plain
  · exact Position.isPlain_withExtension plain (clean extension inExtensions).1
      (clean extension inExtensions).2
  · exact Position.isPlain_withIndex plain (clean extension inExtensions).1
      (clean extension inExtensions).2

private theorem above_of_mem_tries :
    ∀ candidate ∈ tries position, candidate.above = position.above := by
  intro candidate member
  rcases tries_cases member with rfl | ⟨extension, _, rfl | rfl⟩ <;> rfl

private theorem nodup_tries (position : Position) : (tries position).Nodup := by
  have distinct : resolutionExtensions.Nodup := by decide
  have indexLength : ∀ candidate ∈ resolutionExtensions.map position.withIndex,
      candidate.names.length = position.names.length + 1 := by
    intro candidate member
    rcases List.mem_map.mp member with ⟨extension, _, rfl⟩
    simp [Position.withIndex, Position.enter]
  have indexes : (resolutionExtensions.map position.withIndex).Nodup :=
    distinct.map Position.withIndex_injective
  have notIndex : position ∉ resolutionExtensions.map position.withIndex := by
    intro member
    have length := indexLength position member
    omega
  rw [tries]
  split
  · exact List.nodup_cons.mpr ⟨notIndex, indexes⟩
  · rename_i someNames
    rcases Position.exists_last someNames with ⟨front, last, written, _, extended⟩
    have fileLength : ∀ candidate ∈ resolutionExtensions.map position.withExtension,
        candidate.names.length = position.names.length ∧ candidate ≠ position := by
      intro candidate member
      rcases List.mem_map.mp member with ⟨extension, _, rfl⟩
      refine ⟨by simp [extended, written], fun equal => ?_⟩
      have names := congrArg Position.names equal
      rw [extended, written, List.append_cancel_left_eq, List.singleton_inj] at names
      simpa using congrArg String.toList names
    rw [List.cons_append, List.nodup_cons, List.mem_append, not_or, List.nodup_append]
    refine ⟨⟨fun isFile => (fileLength position isFile).2 rfl, notIndex⟩,
      distinct.map (Position.withExtension_injective someNames), indexes, ?_⟩
    intro file isFile index isIndex equal
    have lengths := (fileLength file isFile).1
    rw [equal, indexLength index isIndex] at lengths
    omega

/-! ## Candidates -/

theorem candidates_eq {target importer : String} (relative : isRelative target = true)
    (importerRelative : (Path.slashed importer).toList.head? ≠ some '/') :
    candidates target importer = (tries (destination target importer)).map Position.text := by
  rw [candidates, if_pos relative, basePath_eq relative importerRelative,
    candidatesAt_text (isPlain_destination target importer)]

private theorem candidates_of_not_isRelative {target : String}
    (external : isRelative target = false)
    (importer : String) : candidates target importer = [] := by
  simp [candidates, external]

private theorem length_tries (position : Position) :
    (tries position).length = if position.names = [] then 5 else 9 := by
  rw [tries]
  split <;> rfl

private theorem nodup_map_text (plain : position.IsPlain) :
    ((tries position).map Position.text).Nodup := by
  refine (nodup_tries position).map_on ?_
  intro left inLeft right inRight equal
  exact Position.text_injective (isPlain_of_mem_tries plain left inLeft)
    (isPlain_of_mem_tries plain right inRight) equal

/-- The candidates of a relative target start with the place to which it leads from the directory of
the importing file. They are in canonical form and different from one another, five if that place is
a directory by its form alone and nine otherwise; if it lies above the root, all of them do, and the
target resolves to no file of the project. A target that is not relative has no candidates. -/
theorem candidates_canonical (target importer : String) :
    (isRelative target = true → importer.toList.head? ≠ some '/' →
      importer.toList.head? ≠ some '\\' →
      ∃ base rest, candidates target importer = base :: rest ∧
        base = (destination target importer).text ∧
        (candidates target importer).length =
          (if Path.baseName base = "." ∨ Path.baseName base = ".." then 5 else 9) ∧
        (candidates target importer).Nodup ∧
        (∀ candidate ∈ candidates target importer, Path.normalize candidate = candidate) ∧
        ((Path.components base).head? = some ".." →
          (∀ candidate ∈ candidates target importer,
            (Path.components candidate).head? = some "..") ∧
          ∀ isKnown : String → Bool, (∀ path, isKnown path = true →
              ∀ part ∈ Path.components path, part ≠ "." ∧ part ≠ "..") →
            resolve? isKnown target importer = none)) ∧
    (isRelative target = false →
      candidates target importer = [] ∧ ∀ isKnown, resolve? isKnown target importer = none) := by
  constructor
  · intro relative noSlash noBackslash
    have plain := isPlain_destination target importer
    have triesPlain := isPlain_of_mem_tries plain
    have written := candidates_eq relative (Path.head?_slashed noSlash noBackslash)
    refine ⟨(destination target importer).text, _, written, rfl, ?_, ?_, ?_, ?_⟩
    · rw [written, List.length_map, length_tries]
      simp only [baseName_text plain]
    · rw [written]
      exact nodup_map_text plain
    · rw [written]
      intro candidate member
      rcases List.mem_map.mp member with ⟨position, isTry, rfl⟩
      exact Position.normalize_text (triesPlain position isTry)
    · intro outside
      have allOutside : ∀ candidate ∈ candidates target importer,
          (Path.components candidate).head? = some ".." := by
        rw [written]
        intro candidate member
        rcases List.mem_map.mp member with ⟨position, isTry, rfl⟩
        rw [Position.head?_components_text (triesPlain position isTry),
          above_of_mem_tries position isTry, ← Position.head?_components_text plain]
        exact outside
      refine ⟨allOutside, fun isKnown inside => ?_⟩
      rw [resolve?, List.find?_eq_none]
      intro candidate member known
      have isPart := List.mem_of_head? (allOutside candidate member)
      exact (inside candidate known _ isPart).2 rfl
  · intro external
    have none := candidates_of_not_isRelative external importer
    exact ⟨none, fun isKnown => by rw [resolve?, none, List.find?_nil]⟩

theorem candidates_canonical_aboveRoot :
    (∃ base rest, candidates "../.././x" "src/a.ts" = base :: rest ∧ base = "../x" ∧
      (candidates "../.././x" "src/a.ts").length = 9 ∧
      ∀ candidate ∈ rest, (Path.components candidate).head? = some "..") ∧
    candidates "lodash" "src/a.ts" = [] := by
  rcases (candidates_canonical "../.././x" "src/a.ts").1 (by decide) (by decide) (by decide) with
    ⟨base, rest, written, led, length, _, _, outside⟩
  have isBase : base = "../x" := by
    rw [led]
    decide +kernel
  subst isBase
  refine ⟨⟨_, rest, written, rfl, length, ?_⟩,
    ((candidates_canonical "lodash" "src/a.ts").2 (by decide)).1⟩
  intro candidate inRest
  refine (outside (by decide +kernel)).1 candidate ?_
  rw [written]
  exact List.mem_cons_of_mem _ inRest

end Import

end ImportAtlas
