import ImportAtlas.Proofs.Ignore.Precedence
import ImportAtlas.Proofs.Path.Names

/-! # Rules of one directory

A layer is anchored at a directory by the text that the paths below it start with. Main statement:
these are the paths whose components go on behind those of the directory, so a layer has a say about
them and about no others; what it says there is what its patterns say about the rest of the path.
-/

namespace ImportAtlas

namespace Path

def IsInside (directory path : String) : Prop :=
  ∃ rest, rest ≠ [] ∧ components path = components directory ++ rest

instance (directory path : String) : Decidable (IsInside directory path) :=
  decidable_of_iff
    (components directory <+: components path ∧ components directory ≠ components path) <| by
      constructor
      · intro given
        rcases given with ⟨⟨rest, equal⟩, different⟩
        refine ⟨rest, ?_, equal.symm⟩
        intro nothing
        rw [nothing, List.append_nil] at equal
        exact different equal
      · intro inside
        rcases inside with ⟨rest, restSome, equal⟩
        rw [equal]
        refine ⟨List.prefix_append _ rest, ?_⟩
        intro same
        exact restSome (List.self_eq_append_right.mp same)

private theorem isInside_iff {directory path : String} :
    IsInside directory path ↔ ∃ below, path = directory ++ "/" ++ below := by
  constructor
  · intro inside
    rcases inside with ⟨rest, restSome, equal⟩
    have parts : Text.split '/' path.toList =
        Text.split '/' directory.toList ++ rest.map String.toList := by
      have lists := congrArg (List.map String.toList) equal
      simpa [components, Text.splitText, Function.comp_def] using lists
    have restParts : rest.map String.toList ≠ [] := by simpa using restSome
    have someParts : Text.split '/' directory.toList ≠ [] := by simp [Text.split]
    refine ⟨String.ofList (Text.join ['/'] (rest.map String.toList)), ?_⟩
    apply String.toList_inj.mp
    calc path.toList
        = Text.join ['/'] (Text.split '/' path.toList) := (Text.join_split '/' _).symm
      _ = Text.join ['/'] (Text.split '/' directory.toList) ++ ['/'] ++
            Text.join ['/'] (rest.map String.toList) := by
          rw [parts, Text.join_append ['/'] someParts restParts]
      _ = _ := by
          rw [Text.join_split]
          simp
  · intro given
    rcases given with ⟨below, rfl⟩
    exact ⟨components below, by simp [components, Text.splitText, Text.split],
      components_append directory below⟩

end Path

namespace Ignore

private theorem pathBelow?_append {base : String} (nonempty : base ≠ "") (below : String) :
    pathBelow? base (base ++ "/" ++ below) = some below.toList := by
  simp [pathBelow?, nonempty]

private theorem pathBelow?_of_not_isInside {base path : String} (nonempty : base ≠ "")
    (outside : ¬Path.IsInside base path) : pathBelow? base path = none := by
  rw [pathBelow?, if_neg nonempty, if_neg]
  intro isPrefix
  rcases List.isPrefixOf_iff_prefix.mp isPrefix with ⟨below, equal⟩
  apply outside
  apply Path.isInside_iff.mpr
  refine ⟨String.ofList below, String.toList_inj.mp ?_⟩
  simp [← equal]

section Added

variable (rules : Rules) {base : String} (nonempty : base ≠ "") (patterns : List Pattern)
  (source : String) (isDirectory : Bool)
include nonempty

private theorem Rules.isIgnored_push_of_not_isInside {path : String}
    (outside : ¬Path.IsInside base path) :
    (rules.push base patterns source).isIgnored path isDirectory =
      rules.isIgnored path isDirectory := by
  rw [isIgnored_eq_getD, isIgnored_eq_getD, decision?_push, Layer.decide,
    pathBelow?_of_not_isInside nonempty outside, Option.bind_none, Option.none_or]

private theorem Rules.decision?_push_append (below : String) :
    (rules.push base patterns source).decision? (base ++ "/" ++ below) isDirectory =
      (lastDecision patterns (presented below.toList isDirectory)).or
        (rules.decision? (base ++ "/" ++ below) isDirectory) := by
  rw [decision?_push, Layer.decide, pathBelow?_append nonempty, Option.bind_some]

end Added

private theorem Rules.isIgnored_push_root (patterns : List Pattern) (source path : String)
    (isDirectory : Bool) :
    (Rules.empty.push "" patterns source).isIgnored path isDirectory =
      (lastDecision patterns (presented path.toList isDirectory)).getD false := by
  have noLayers : Rules.empty.decision? path isDirectory = none := rfl
  rw [isIgnored_eq_getD, decision?_push, noLayers, Option.or_none, Layer.decide, pathBelow?,
    if_pos rfl, Option.bind_some]

/-- Lines that are added for a directory change no decision about a path that is not inside it.
About a path inside they decide what they would decide about its rest at the root, if one of their
patterns matches it, and leave the decision as it was otherwise. -/
theorem withLines_governsSubtree (rules : Rules) {base : String} (nonempty : base ≠ "")
    {source : String} {lines : List Text.Coded} {patterns : List Pattern}
    (compiled : (compileLines source lines).outcome = .ok patterns) :
    ∃ extended alone, (rules.withLines base lines source).outcome = .ok extended ∧
      (Rules.empty.withLines "" lines source).outcome = .ok alone ∧
      (∀ path isDirectory, ¬Path.IsInside base path →
        extended.isIgnored path isDirectory = rules.isIgnored path isDirectory) ∧
      ∀ below isDirectory, extended.isIgnored (base ++ "/" ++ below) isDirectory =
        if ∃ pattern ∈ patterns,
            pattern.matchesPath (presented below.toList isDirectory) = true then
          alone.isIgnored below isDirectory
        else rules.isIgnored (base ++ "/" ++ below) isDirectory := by
  refine ⟨rules.push base patterns source, Rules.empty.push "" patterns source,
    Reported.outcome_bind_eq_ok_iff.mpr ⟨patterns, compiled, rfl⟩,
    Reported.outcome_bind_eq_ok_iff.mpr ⟨patterns, compiled, rfl⟩, ?_, ?_⟩
  · intro path isDirectory outside
    exact rules.isIgnored_push_of_not_isInside nonempty patterns source isDirectory outside
  · intro below isDirectory
    rw [Rules.isIgnored_eq_getD, rules.decision?_push_append nonempty, Rules.isIgnored_push_root]
    by_cases someMatches : ∃ pattern ∈ patterns,
        pattern.matchesPath (presented below.toList isDirectory) = true
    · have decided : lastDecision patterns (presented below.toList isDirectory) ≠ none := by
        intro undecided
        rcases someMatches with ⟨pattern, member, matched⟩
        rw [lastDecision_eq_none_iff.mp undecided pattern member] at matched
        cases matched
      rw [if_pos someMatches, Option.or_of_isSome (Option.isSome_iff_ne_none.mpr decided)]
    · have undecided : lastDecision patterns (presented below.toList isDirectory) = none := by
        apply lastDecision_eq_none_iff.mpr
        intro pattern member
        rw [Bool.eq_false_iff]
        intro matched
        exact someMatches ⟨pattern, member, matched⟩
      rw [if_neg someMatches, undecided, Option.none_or]
      rfl

theorem withLines_governsSubtree_similarName :
    ∃ rules extended, (Rules.empty.withLines "" ["*.ts"] ".gitignore").outcome = .ok rules ∧
      (rules.withLines "pkg" ["!/a.ts"] "pkg/.gitignore").outcome = .ok extended ∧
      extended.isIgnored "pkg/a.ts" false = false ∧
        extended.isIgnored "pkg2/a.ts" false = true := by
  have added := Rules.outcome_withLines_eq_push Rules.empty "" ".gitignore"
    (show ∀ line ∈ (["*.ts"] : List Text.Coded), isReversed line = false by decide +kernel)
  have compiled := outcome_compileLines "pkg/.gitignore"
    (show ∀ line ∈ (["!/a.ts"] : List Text.Coded), isReversed line = false by decide +kernel)
  have addedAlone := Rules.outcome_withLines_eq_push Rules.empty "" "pkg/.gitignore"
    (show ∀ line ∈ (["!/a.ts"] : List Text.Coded), isReversed line = false by decide +kernel)
  rcases withLines_governsSubtree (Rules.empty.push "" (patternsOf ["*.ts"]) ".gitignore")
    (show "pkg" ≠ "" by decide) compiled with ⟨extended, alone, succeeded, single, outside, inside⟩
  refine ⟨_, extended, added, succeeded, ?_, ?_⟩
  · have path : "pkg/a.ts" = "pkg" ++ "/" ++ "a.ts" := by decide
    rw [path, inside "a.ts" false, if_pos (by decide +kernel),
      ← Except.ok.inj (addedAlone.symm.trans single)]
    decide +kernel
  · rw [outside "pkg2/a.ts" false (by decide +kernel)]
    decide +kernel

end Ignore

end ImportAtlas
