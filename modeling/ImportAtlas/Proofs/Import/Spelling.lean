import ImportAtlas.Proofs.Import.Candidates

/-! # Spellings of a target

Different texts can name one place, and one place can be named from different files. Main
statements: what a target resolves to from the root does not depend on the importing file, and the
candidates stay the same when a target takes a detour that leads back to where it started.
-/

namespace ImportAtlas

namespace Import

open ImportAtlas.Path (Position IsOrdinary)

/-! ## Targets from the root -/

/-- A relative path that leads down from the root, each of its components being a name. -/
structure IsTidy (path : String) : Prop where
  ordinary : ∀ name ∈ Path.components path, IsOrdinary name
  plain : '\\' ∉ path.toList

def wayToRoot (importer : String) : String :=
  "./" ++ String.join (List.replicate ((Path.components importer).length - 1) "../")

def alternatives (target : String) : List String :=
  [target, target ++ ".ts", target ++ ".tsx", target ++ ".js", target ++ ".jsx",
    target ++ "/index.ts", target ++ "/index.tsx", target ++ "/index.js", target ++ "/index.jsx"]

private theorem components_up (levels : Nat) (path : String) :
    Path.components (String.join (List.replicate levels "../") ++ path) =
      List.replicate levels ".." ++ Path.components path := by
  induction levels with
  | zero => simp
  | succ levels induction =>
      have written : String.join (List.replicate (levels + 1) "../") ++ path =
          ".." ++ "/" ++ (String.join (List.replicate levels "../") ++ path) :=
        String.toList_inj.mp (by simp [List.replicate_succ])
      rw [written, Path.components_append, induction, List.replicate_succ]
      rfl

private theorem components_wayToRoot (target importer : String) :
    Path.components (wayToRoot importer ++ target) =
      "." :: List.replicate ((Path.components importer).length - 1) ".." ++
        Path.components target := by
  have written : wayToRoot importer ++ target = "." ++ "/" ++
      (String.join (List.replicate ((Path.components importer).length - 1) "../") ++ target) := by
    simp [wayToRoot, String.append_assoc]
  rw [written, Path.components_append, components_up]
  rfl

private theorem backslash_not_mem_wayToRoot (importer : String) :
    '\\' ∉ (wayToRoot importer).toList := by
  simp [wayToRoot, List.mem_replicate]

private theorem isRelative_wayToRoot (target importer : String) :
    isRelative (wayToRoot importer ++ target) = true := by
  simp [isRelative, wayToRoot]

def IsTidy.position {path : String} (tidy : IsTidy path) : Position :=
  ⟨0, Path.components path, tidy.ordinary⟩

namespace IsTidy

variable {path target importer : String}

private theorem head?_ne_slash (tidy : IsTidy path) : path.toList.head? ≠ some '/' := by
  rcases List.exists_cons_of_ne_nil (Path.components_ne_nil path) with ⟨first, rest, parts⟩
  have isFirst : first ∈ Path.components path := parts ▸ List.mem_cons_self
  rw [← Scan.pathText_components path, parts]
  exact Scan.head?_pathText_cons (tidy.ordinary first isFirst).nonempty
    (Path.slash_not_mem_of_mem_components isFirst) rest

private theorem components_position (tidy : IsTidy path) :
    tidy.position.components = Path.components path := rfl

private theorem text_position (tidy : IsTidy path) : tidy.position.text = path := by
  rw [Position.text, components_position, if_neg (Path.components_ne_nil path),
    Scan.pathText_components]

private theorem destination_wayToRoot (tidy : IsTidy target) (importerTidy : IsTidy importer) :
    destination (wayToRoot importer ++ target) importer = tidy.position := by
  have directory : ∀ name ∈ (Path.components importer).dropLast, IsOrdinary name :=
    fun name member => importerTidy.ordinary name ((List.dropLast_sublist _).mem member)
  have targetPlain : '\\' ∉ (wayToRoot importer ++ target).toList := by
    rw [String.toList_append, List.mem_append]
    exact not_or.mpr ⟨backslash_not_mem_wayToRoot importer, tidy.plain⟩
  rw [destination, Path.slashed_eq_self importerTidy.plain, Path.slashed_eq_self targetPlain,
    components_wayToRoot, List.cons_append, Position.walk_append, Position.walk_cons,
    Position.step_here, Position.walk_append, ← List.length_dropLast,
    Position.walk_back Position.here directory, Position.walk_names _ tidy.ordinary]
  rfl

private theorem candidates_wayToRoot (tidy : IsTidy target) (importerTidy : IsTidy importer) :
    candidates (wayToRoot importer ++ target) importer = alternatives target := by
  have relative := isRelative_wayToRoot target importer
  have importerRelative : (Path.slashed importer).toList.head? ≠ some '/' := by
    rw [Path.slashed_eq_self importerTidy.plain]
    exact importerTidy.head?_ne_slash
  have someNames : tidy.position.names ≠ [] := Path.components_ne_nil target
  have someComponents : tidy.position.components ≠ [] := Path.components_ne_nil target
  have file := Position.text_withExtension someNames
  have index : ∀ extension, (tidy.position.withIndex extension).text =
      tidy.position.text ++ "/" ++ ("index." ++ extension) :=
    fun extension => Position.text_enter someComponents _
  rw [candidates_eq relative importerRelative, tidy.destination_wayToRoot importerTidy, tries,
    if_neg someNames]
  simp only [resolutionExtensions, List.map_cons, List.map_nil, List.cons_append, List.nil_append,
    file, index, tidy.text_position, String.append_assoc]
  rfl

end IsTidy

private theorem find?_of_more {isKnown more : String → Bool}
    (weaker : ∀ path, isKnown path = true → more path = true) {paths : List String} {found : String}
    (answer : paths.find? isKnown = some found) :
    ∃ better, paths.find? more = some better ∧ paths.idxOf better ≤ paths.idxOf found := by
  induction paths with
  | nil => cases answer
  | cons first rest induction =>
      cases firstFits : more first with
      | true => exact ⟨first, by rw [List.find?_cons, firstFits], by simp⟩
      | false =>
          have unknown : isKnown first = false :=
            Bool.eq_false_iff.mpr fun known => by simp [weaker first known] at firstFits
          rw [List.find?_cons, unknown] at answer
          rcases induction answer with ⟨better, foundBetter, earlier⟩
          have different : ∀ {path}, more path = true → first ≠ path := by
            rintro path fits rfl
            simp [fits] at firstFits
          have betterFits := List.find?_some foundBetter
          have foundFits := weaker found (List.find?_some answer)
          refine ⟨better, by rw [List.find?_cons, firstFits]; exact foundBetter, ?_⟩
          rw [List.idxOf_cons_ne _ (different betterFits),
            List.idxOf_cons_ne _ (different foundFits)]
          omega

/-- A target that goes up to the root and down from there resolves to the first of its alternatives
that is known. The answer is the same from every importing file, and with more known paths it stays
or moves to an earlier alternative. -/
theorem resolved_fromRoot {target importer : String} (tidy : IsTidy target)
    (importerTidy : IsTidy importer) (isKnown : String → Bool) :
    resolve? isKnown (wayToRoot importer ++ target) importer =
        (alternatives target).find? isKnown ∧
      (∀ other, IsTidy other →
        resolve? isKnown (wayToRoot other ++ target) other =
          resolve? isKnown (wayToRoot importer ++ target) importer) ∧
      ∀ more : String → Bool, (∀ path, isKnown path = true → more path = true) →
        ∀ found, resolve? isKnown (wayToRoot importer ++ target) importer = some found →
          ∃ better, resolve? more (wayToRoot importer ++ target) importer = some better ∧
            (alternatives target).idxOf better ≤ (alternatives target).idxOf found := by
  simp only [resolve?, tidy.candidates_wayToRoot importerTidy, true_and]
  exact ⟨fun other otherTidy => by rw [tidy.candidates_wayToRoot otherTidy],
    fun more weaker found answer => find?_of_more weaker answer⟩

theorem resolved_fromRoot_indexFile :
    IsTidy "lib/x" ∧ IsTidy "src/app/a.ts" ∧
      resolve? (["lib/x/index.ts", "lib/x.js"].contains ·) "./../../lib/x" "src/app/a.ts" =
        some "lib/x.js" := by
  have tidy : IsTidy "lib/x" := ⟨by decide +kernel, by decide⟩
  have importerTidy : IsTidy "src/app/a.ts" := ⟨by decide +kernel, by decide⟩
  refine ⟨tidy, importerTidy, ?_⟩
  have way : wayToRoot "src/app/a.ts" ++ "lib/x" = "./../../lib/x" := by decide +kernel
  rw [← way, (resolved_fromRoot tidy importerTidy _).1]
  decide +kernel

/-! ## Detours -/

theorem destination_eq_walk (target importer : String) :
    destination target importer =
      (destination "" importer).walk (Path.components (Path.slashed target)) := by
  rw [destination, destination, Position.walk_append, Position.walk_append]
  simp [Path.slashed, Path.components_empty]

private theorem normalize_directoryName {path : String} (relative : path.toList.head? ≠ some '/')
    (plain : '\\' ∉ path.toList) :
    Path.normalize (Path.directoryName path) = (destination "" path).text := by
  have before := Path.directoryName_prefix path
  have directoryPlain : '\\' ∉ (Path.directoryName path).toList :=
    fun member => plain (before.subset member)
  have directoryRelative : (Path.directoryName path).toList.head? ≠ some '/' :=
    fun first => relative (Path.head?_of_prefix before first)
  rw [Path.normalize, Path.slashed_eq_self directoryPlain,
    Position.canonical_eq directoryRelative, Position.walk_components_directoryName, destination,
    Path.slashed_eq_self plain, Position.walk_append]
  simp [Path.slashed, Path.components_empty]

private theorem destination_congr {importer other : String}
    (relative : importer.toList.head? ≠ some '/') (plain : '\\' ∉ importer.toList)
    (otherRelative : other.toList.head? ≠ some '/') (otherPlain : '\\' ∉ other.toList)
    (same : Path.normalize (Path.directoryName other) =
      Path.normalize (Path.directoryName importer)) (target : String) :
    destination target other = destination target importer := by
  rw [normalize_directoryName otherRelative otherPlain,
    normalize_directoryName relative plain] at same
  have samePosition := Position.text_injective (isPlain_destination "" other)
    (isPlain_destination "" importer) same
  rw [destination_eq_walk, samePosition, ← destination_eq_walk]

private theorem candidates_detour {middle : String}
    (leadsBack : ∀ position : Position,
      position.walk (Path.components (Path.slashed middle)) = position)
    {front back importer : String} (relative : isRelative (front ++ "/" ++ back) = true)
    (importerRelative : (Path.slashed importer).toList.head? ≠ some '/') :
    candidates (front ++ "/" ++ middle ++ "/" ++ back) importer =
      candidates (front ++ "/" ++ back) importer := by
  have sameFirst : isRelative (front ++ "/" ++ middle ++ "/" ++ back) = true := by
    cases chars : front.toList <;> simp_all [isRelative]
  rw [candidates_eq sameFirst importerRelative, candidates_eq relative importerRelative,
    destination_eq_walk, destination_eq_walk (front ++ "/" ++ back)]
  simp only [Path.slashed_append, show Path.slashed "/" = "/" by decide]
  rw [Position.walk_components_detour leadsBack]

/-- The candidates of a relative target stay the same when `./` is put in front of it, when one of
its slashes is doubled or followed by `./` or by a name and `../`, and when it is written in another
file, the directory of which has the same canonical form. -/
theorem candidates_respelled {target importer : String} (relative : isRelative target = true)
    (importerRelative : importer.toList.head? ≠ some '/') (importerPlain : '\\' ∉ importer.toList) :
    candidates ("./" ++ target) importer = candidates target importer ∧
      (∀ front back, target = front ++ "/" ++ back →
        candidates (front ++ "//" ++ back) importer = candidates target importer ∧
        candidates (front ++ "/./" ++ back) importer = candidates target importer ∧
        ∀ name, IsOrdinary name → '/' ∉ name.toList → '\\' ∉ name.toList →
          candidates (front ++ "/" ++ name ++ "/../" ++ back) importer =
            candidates target importer) ∧
      ∀ other, other.toList.head? ≠ some '/' → '\\' ∉ other.toList →
        Path.normalize (Path.directoryName other) = Path.normalize (Path.directoryName importer) →
          candidates target other = candidates target importer := by
  have slashedRelative : ∀ {path : String}, path.toList.head? ≠ some '/' → '\\' ∉ path.toList →
      (Path.slashed path).toList.head? ≠ some '/' := by
    intro path pathRelative pathPlain
    rwa [Path.slashed_eq_self pathPlain]
  have fromImporter := slashedRelative importerRelative importerPlain
  refine ⟨?_, ?_, ?_⟩
  · have led : destination ("./" ++ target) importer = destination target importer := by
      rw [destination_eq_walk, destination_eq_walk target, Path.slashed_append,
        show Path.slashed "./" = "." ++ "/" by decide, Path.components_append,
        Path.components_of_not_mem (show '/' ∉ ".".toList by decide), List.singleton_append,
        Position.walk_cons, Position.step_here]
    rw [candidates_eq (by simp [isRelative]) fromImporter, led, candidates_eq relative fromImporter]
  · rintro front back rfl
    refine ⟨?_, ?_, fun name isOrdinary noSlash noBackslash => ?_⟩
    · have leadsBack : ∀ position : Position,
          position.walk (Path.components (Path.slashed "")) = position := fun position =>
        position.step_empty
      simpa [String.append_assoc] using candidates_detour leadsBack relative fromImporter
    · have leadsBack : ∀ position : Position,
          position.walk (Path.components (Path.slashed ".")) = position := fun position =>
        position.step_here
      simpa [String.append_assoc] using candidates_detour leadsBack relative fromImporter
    · have leadsBack : ∀ position : Position,
          position.walk (Path.components (Path.slashed (name ++ "/" ++ ".."))) = position := by
        intro position
        rw [Path.slashed_append, Path.slashed_append, Path.slashed_eq_self noBackslash,
          show Path.slashed "/" = "/" by decide, Path.components_append,
          Path.components_of_not_mem noSlash, List.singleton_append, Position.walk_cons,
          Position.step_of_isOrdinary position isOrdinary]
        exact (Position.step_above _).trans (Position.up_enter position isOrdinary)
      simpa [String.append_assoc] using candidates_detour leadsBack relative fromImporter
  · intro other otherRelative otherPlain same
    rw [candidates_eq relative (slashedRelative otherRelative otherPlain),
      candidates_eq relative fromImporter,
      destination_congr importerRelative importerPlain otherRelative otherPlain same]

theorem candidates_respelled_aboveRoot :
    candidates ("./" ++ "../../x") "src/a.ts" = candidates "../../x" "src/a.ts" ∧
      candidates (".." ++ "/" ++ "lib" ++ "/../" ++ "../x") "src/a.ts" =
        candidates "../../x" "src/a.ts" ∧
      candidates "../../x" "lib/.././src//b.ts" = candidates "../../x" "src/a.ts" := by
  rcases @candidates_respelled "../../x" "src/a.ts" (by decide) (by decide) (by decide) with
    ⟨inFront, behindSlash, elsewhere⟩
  refine ⟨inFront, ?_, elsewhere _ (by decide) (by decide) (by decide +kernel)⟩
  exact (behindSlash ".." "../x" (by decide)).2.2 "lib" (by decide) (by decide) (by decide)

theorem candidates_backslashName :
    isRelative "./b" = true ∧ IsOrdinary "x\\y" ∧ '/' ∉ "x\\y".toList ∧
      candidates ("." ++ "/" ++ "x\\y" ++ "/../" ++ "b") "a.ts" ≠ candidates "./b" "a.ts" := by
  refine ⟨by decide, by decide, by decide, fun same => ?_⟩
  have first := congrArg List.head? same
  revert first
  decide +kernel

end Import

end ImportAtlas
