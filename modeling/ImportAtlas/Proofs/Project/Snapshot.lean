import ImportAtlas.Project.Document
import ImportAtlas.Proofs.Json.RoundTrip
import ImportAtlas.Proofs.Json.Same
import ImportAtlas.Proofs.Keyed

/-! # Snapshots and their JSON

A snapshot is written as JSON and read as a document. Main statement: reading gives the snapshot
back, also from the text of its JSON, writing what was read gives the same JSON, and snapshots that
are not the same have JSON that is not the same.
-/

namespace ImportAtlas

open Text (Coded)

/-! ## Manifests -/

namespace Manifest

variable {left right : Manifest}

def SameTexts (left right : List (Coded × Coded)) : Prop :=
  ∀ key, Keyed.get? key left = Keyed.get? key right

/-- Equality of manifests in which the texts of a field may be in another order. -/
structure Same (left right : Manifest) : Prop where
  name : left.name = right.name
  version : left.version = right.version
  dependencies : Option.Rel SameTexts left.dependencies right.dependencies
  devDependencies : Option.Rel SameTexts left.devDependencies right.devDependencies
  scripts : Option.Rel SameTexts left.scripts right.scripts

private theorem same_textsToJson_iff (texts others : List (Coded × Coded)) :
    (textsToJson texts).Same (textsToJson others) ↔ SameTexts texts others := by
  have written (texts : List (Coded × Coded)) :
      textsToJson texts = .object (texts.map fun member => (member.1, .text member.2)) := rfl
  simp only [written, Json.same_object_iff, Keyed.get?_map, SameTexts, Json.rel_text_iff]

private theorem rel_textsToJson_iff {field other : Option (List (Coded × Coded))} :
    Option.Rel Json.Same (field.map textsToJson) (other.map textsToJson) ↔
      Option.Rel SameTexts field other :=
  Json.rel_map_iff same_textsToJson_iff

/-- The members of the object that is written for a manifest. -/
def members (manifest : Manifest) : List (Coded × Json) :=
  Json.optionalMember "name" (manifest.name.map .text)
    ++ Json.optionalMember "version" (manifest.version.map .text)
    ++ Json.optionalMember "dependencies" (manifest.dependencies.map textsToJson)
    ++ Json.optionalMember "dev_dependencies" (manifest.devDependencies.map textsToJson)
    ++ Json.optionalMember "scripts" (manifest.scripts.map textsToJson)

theorem toJson_eq (manifest : Manifest) : manifest.toJson = .object manifest.members :=
  rfl

private theorem get?_optionalMember (key name : Coded) (value : Option Json) :
    Keyed.get? key (Json.optionalMember name value) = if name = key then value else none := by
  cases value with
  | none => simp [Json.optionalMember, Keyed.get?]
  | some value => rfl

theorem get?_members (manifest : Manifest) (key : Coded) :
    Keyed.get? key manifest.members =
      (((((if "name" = key then manifest.name.map Json.text else none).or
        (if "version" = key then manifest.version.map Json.text else none)).or
        (if "dependencies" = key then manifest.dependencies.map textsToJson else none)).or
        (if "dev_dependencies" = key then manifest.devDependencies.map textsToJson else none)).or
        (if "scripts" = key then manifest.scripts.map textsToJson else none)) := by
  simp only [members, Keyed.get?_append, get?_optionalMember]

private theorem getD_text (field : Option Coded) :
    (field.map Json.text).getD .null = .ofText? field := by
  cases field <;> rfl

theorem ofJson_toJson (manifest : Manifest) :
    ManifestDocument.ofJson manifest.toJson = .ok manifest.document := by
  simp [ManifestDocument.ofJson, Document.optional, Document.optional?, toJson_eq, get?_members,
    getD_text, document, Except.map]
  rfl

private theorem writtenMembers_textsToJson (name : Coded) (field : Option (List (Coded × Coded))) :
    Document.writtenMembers name ((field.map textsToJson).getD .null) =
      .ok (Json.optionalMember name (field.map textsToJson)) := by
  cases field <;> rfl

private theorem present_ofText? (name : Coded) (field : Option Coded) :
    ManifestDocument.present name (.ofText? field) =
      Json.optionalMember name (field.map .text) := by
  cases field <;> rfl

theorem toJson_document (manifest : Manifest) :
    manifest.document.toJson = .ok manifest.toJson := by
  rw [ManifestDocument.toJson]
  simp only [document, writtenMembers_textsToJson, present_ofText?]
  rfl

theorem same_toJson_iff : left.toJson.Same right.toJson ↔ left.Same right := by
  rw [toJson_eq, toJson_eq, Json.same_object_iff]
  constructor
  · intro each
    have each (key : Coded) := get?_members left key ▸ get?_members right key ▸ each key
    exact ⟨Json.rel_text_iff.mp (by simpa using each "name"),
      Json.rel_text_iff.mp (by simpa using each "version"),
      rel_textsToJson_iff.mp (by simpa using each "dependencies"),
      rel_textsToJson_iff.mp (by simpa using each "dev_dependencies"),
      rel_textsToJson_iff.mp (by simpa using each "scripts")⟩
  · intro same key
    rw [get?_members, get?_members]
    refine Json.rel_or (Json.rel_or (Json.rel_or (Json.rel_or ?_ ?_) ?_) ?_) ?_
    · exact Json.rel_if (Json.rel_text_iff.mpr same.name)
    · exact Json.rel_if (Json.rel_text_iff.mpr same.version)
    · exact Json.rel_if (rel_textsToJson_iff.mpr same.dependencies)
    · exact Json.rel_if (rel_textsToJson_iff.mpr same.devDependencies)
    · exact Json.rel_if (rel_textsToJson_iff.mpr same.scripts)

def mappings (manifest : Manifest) : List (List (Coded × Coded)) :=
  manifest.dependencies.toList ++ manifest.devDependencies.toList ++ manifest.scripts.toList

def isDistinct (manifest : Manifest) : Bool :=
  manifest.mappings.all fun texts => (texts.map Prod.fst).Nodup

/-- Whether no halves that make a character stand side by side in a text of a manifest. -/
def isUnpaired (manifest : Manifest) : Bool :=
  ((manifest.name.toList ++ manifest.version.toList).all fun text => decide text.IsUnpaired) &&
    manifest.mappings.all fun texts =>
      texts.all fun entry => decide (entry.1.IsUnpaired ∧ entry.2.IsUnpaired)

private theorem isWritable_textsToJson (texts : List (Coded × Coded)) :
    (textsToJson texts).isWritable = true := by
  refine Json.membersWritable_iff.mpr fun member isMember => ?_
  obtain ⟨⟨name, text⟩, _, rfl⟩ := List.mem_map.mp isMember
  rfl

private theorem isPlain_textsToJson {texts : List (Coded × Coded)}
    (distinct : (texts.map Prod.fst).Nodup)
    (unpaired : ∀ entry ∈ texts, entry.1.IsUnpaired ∧ entry.2.IsUnpaired) :
    (textsToJson texts).isPlain = true := by
  rw [textsToJson, Json.isPlain_object, List.map_map]
  refine ⟨distinct, fun member isMember => ?_⟩
  obtain ⟨entry, isEntry, rfl⟩ := List.mem_map.mp isMember
  exact (unpaired entry isEntry).imp_right decide_eq_true

private theorem depth_textsToJson_le (texts : List (Coded × Coded)) :
    (textsToJson texts).depth ≤ 1 := by
  refine Nat.succ_le_succ (Json.membersDepth_le_iff.mpr fun member isMember => ?_)
  obtain ⟨⟨name, text⟩, _, rfl⟩ := List.mem_map.mp isMember
  exact Nat.le_refl _

private theorem mem_optionalMember {name : Coded} {value : Option Json} {member : Coded × Json} :
    member ∈ Json.optionalMember name value ↔ ∃ given ∈ value, (name, given) = member := by
  simp [Json.optionalMember]

theorem mem_members {manifest : Manifest} {member : Coded × Json}
    (isMember : member ∈ manifest.members) :
    (∃ name : String, member.1 = name) ∧
      ((∃ text ∈ manifest.name.toList ++ manifest.version.toList, member.2 = .text text) ∨
        ∃ texts ∈ manifest.mappings, member.2 = textsToJson texts) := by
  simp only [members, List.mem_append, mem_optionalMember, Option.mem_def,
    Option.map_eq_some_iff] at isMember
  rcases isMember with (((⟨_, ⟨text, given, rfl⟩, rfl⟩ | ⟨_, ⟨text, given, rfl⟩, rfl⟩) |
    ⟨_, ⟨texts, given, rfl⟩, rfl⟩) | ⟨_, ⟨texts, given, rfl⟩, rfl⟩) | ⟨_, ⟨texts, given, rfl⟩, rfl⟩
  · exact ⟨⟨_, rfl⟩, Or.inl ⟨text, by simp [given], rfl⟩⟩
  · exact ⟨⟨_, rfl⟩, Or.inl ⟨text, by simp [given], rfl⟩⟩
  all_goals exact ⟨⟨_, rfl⟩, Or.inr ⟨texts, by simp [mappings, given], rfl⟩⟩

private theorem nodup_map_fst_members (manifest : Manifest) :
    (manifest.members.map Prod.fst).Nodup := by
  have atMost (name : Coded) (value : Option Json) :
      ((Json.optionalMember name value).map Prod.fst).Sublist [name] := by
    cases value <;> simp [Json.optionalMember]
  have names : (manifest.members.map Prod.fst).Sublist ([Coded.ofText "name"] ++ [.ofText "version"]
      ++ [.ofText "dependencies"] ++ [.ofText "dev_dependencies"] ++ [.ofText "scripts"]) := by
    simp only [members, List.map_append]
    exact ((((atMost _ _).append (atMost _ _)).append (atMost _ _)).append (atMost _ _)).append
      (atMost _ _)
  exact names.nodup (by decide)

theorem isWritable_toJson (manifest : Manifest) : manifest.toJson.isWritable = true := by
  rw [toJson_eq]
  refine Json.membersWritable_iff.mpr fun member isMember => ?_
  rcases mem_members isMember with ⟨_, ⟨text, _, isText⟩ | ⟨texts, _, areTexts⟩⟩
  · rw [isText]
    rfl
  · rw [areTexts]
    exact isWritable_textsToJson texts

theorem isPlain_toJson {manifest : Manifest} (distinct : manifest.isDistinct = true)
    (unpaired : manifest.isUnpaired = true) : manifest.toJson.isPlain = true := by
  rcases Bool.and_eq_true_iff.mp unpaired with ⟨unpairedTexts, unpairedFields⟩
  rw [toJson_eq, Json.isPlain_object]
  refine ⟨manifest.nodup_map_fst_members, fun member isMember => ?_⟩
  rcases mem_members isMember with
    ⟨⟨name, isName⟩, ⟨text, given, isText⟩ | ⟨texts, given, areTexts⟩⟩
  · rw [isName, isText]
    exact ⟨Coded.isUnpaired_ofText name, List.all_eq_true.mp unpairedTexts text given⟩
  · rw [isName, areTexts]
    refine ⟨Coded.isUnpaired_ofText name, isPlain_textsToJson ?_ fun entry isEntry => ?_⟩
    · exact of_decide_eq_true (List.all_eq_true.mp distinct texts given)
    · exact of_decide_eq_true
        (List.all_eq_true.mp (List.all_eq_true.mp unpairedFields texts given) entry isEntry)

theorem depth_toJson_le (manifest : Manifest) : manifest.toJson.depth ≤ 2 := by
  rw [toJson_eq]
  refine Nat.succ_le_succ (Json.membersDepth_le_iff.mpr fun member isMember => ?_)
  rcases mem_members isMember with ⟨_, ⟨text, _, isText⟩ | ⟨texts, _, areTexts⟩⟩
  · rw [isText]
    exact Nat.zero_le 1
  · rw [areTexts]
    exact depth_textsToJson_le texts

private theorem textsToJson_injective : Function.Injective textsToJson := by
  intro texts others same
  have pair : Function.Injective fun entry : Coded × Coded => (entry.1, Json.text entry.2) := by
    rintro ⟨name, text⟩ ⟨other, textOther⟩ equal
    simpa using equal
  exact List.map_injective_iff.mpr pair (Json.object.inj same)

theorem document_injective : Function.Injective document := by
  have texts {field other : Option (List (Coded × Coded))}
      (same : (field.map textsToJson).getD .null = (other.map textsToJson).getD .null) :
      field = other := by
    match field, other with
    | none, none => rfl
    | none, some _ | some _, none => cases same
    | some _, some _ => exact congrArg some (textsToJson_injective same)
  intro left right same
  injection same with name version dependencies devDependencies scripts
  rcases left
  rcases right
  obtain rfl := Json.ofText?_injective name
  obtain rfl := Json.ofText?_injective version
  obtain rfl := texts dependencies
  obtain rfl := texts devDependencies
  obtain rfl := texts scripts
  rfl

end Manifest

/-! ## Files -/

namespace FileContext

variable {left right : FileContext}

theorem ofJson_toJson (context : FileContext) :
    FileDocument.ofJson context.toJson = .ok context.document := by
  simp [FileDocument.ofJson, toJson, document, Document.required, Document.optional,
    Document.optional?, Document.rowOf, Keyed.get?, Except.map, Json.row?, Json.ofTexts]
  rfl

theorem toJson_document (context : FileContext) : context.document.toJson = context.toJson :=
  rfl

theorem document_injective : Function.Injective document := by
  intro left right same
  injection same with path extension imports importedBy
  rcases left
  rcases right
  have text : Function.Injective fun value : String => Json.text value := fun _ _ equal =>
    Coded.ofText_injective (Json.text.inj equal)
  have texts := List.map_injective_iff.mpr text
  obtain rfl := text path
  obtain rfl := Option.map_injective Coded.ofText_injective (Json.ofText?_injective extension)
  obtain rfl := texts imports
  obtain rfl := texts importedBy
  rfl

theorem same_toJson_iff : left.toJson.Same right.toJson ↔ left = right := by
  rw [toJson, toJson, Json.same_object_iff]
  constructor
  · intro each
    have path := each "path"
    have extension := each "extension"
    have imports := each "imports"
    have importedBy := each "imported_by"
    simp [Keyed.get?, Json.same_text_iff, Json.same_ofText?_iff, Json.same_ofTexts_iff,
      (Option.map_injective Coded.ofText_injective).eq_iff] at path extension imports importedBy
    rcases left
    rcases right
    simp_all
  · rintro rfl
    exact Json.rel_get?_refl _

theorem isWritable_toJson (context : FileContext) : context.toJson.isWritable = true := by
  have extension : (Json.ofText? (context.extension.map .ofText)).isWritable = true := by
    cases context.extension <;> rfl
  simp [toJson, Json.isWritable, Json.membersWritable, extension, Json.isWritable_ofTexts]

theorem isPlain_toJson (context : FileContext) : context.toJson.isPlain = true := by
  have text : ∀ value : String, (Json.text value).isPlain = true := fun value =>
    decide_eq_true (Coded.isUnpaired_ofText value)
  have extension : (Json.ofText? (context.extension.map .ofText)).isPlain = true := by
    cases context.extension with
    | none => rfl
    | some value => exact text value
  have names : (["path", "extension", "imports", "imported_by"] : List Coded).Nodup := by decide
  rw [toJson, Json.isPlain_object]
  refine ⟨names, ?_⟩
  simp [Coded.isUnpaired_ofText, text, extension, Json.isPlain_ofTexts]

theorem depth_toJson_le (context : FileContext) : context.toJson.depth ≤ 2 := by
  have extension : (Json.ofText? (context.extension.map .ofText)).depth ≤ 1 := by
    cases context.extension <;> exact Nat.zero_le 1
  refine Nat.succ_le_succ (Json.membersDepth_le_iff.mpr ?_)
  simp [extension, Json.depth_ofTexts_le, Json.depth]

end FileContext

/-! ## Snapshots -/

namespace ProjectContext

variable {left right : ProjectContext}

/-- Equality of snapshots in which the texts of a field of the manifest may be in another order. -/
structure Same (left right : ProjectContext) : Prop where
  files : left.files = right.files
  manifest : Option.Rel Manifest.Same left.manifest right.manifest

private theorem mapM_ofJson (files : List FileContext) :
    (files.map FileContext.toJson).mapM FileDocument.ofJson =
      .ok (files.map FileContext.document) := by
  induction files with
  | nil => rfl
  | cons file others induction =>
      rw [List.map_cons, List.mapM_cons, FileContext.ofJson_toJson, induction]
      rfl

theorem ofJson_toJson (context : ProjectContext) :
    ContextDocument.ofJson context.toJson = .ok context.document := by
  rcases context with ⟨files, manifest⟩
  have rows : Document.rowOf (toJson ⟨files, manifest⟩) "files" =
      .ok (files.map FileContext.toJson) :=
    rfl
  have given : Document.optional (toJson ⟨files, manifest⟩) "manifest" =
      .ok ((manifest.map Manifest.toJson).getD .null) :=
    rfl
  have read := mapM_ofJson files
  cases manifest with
  | none => simp only [ContextDocument.ofJson, given, rows, bind, Except.bind, read]; rfl
  | some manifest =>
      have readManifest := manifest.ofJson_toJson
      simp only [ContextDocument.ofJson, given, rows, bind, Except.bind, read, Option.map_some,
        Option.getD_some]
      rw [Manifest.toJson_eq] at readManifest ⊢
      simp only [readManifest]
      rfl

theorem toJson_document (context : ProjectContext) :
    context.document.toJson = .ok context.toJson := by
  rcases context with ⟨files, manifest⟩
  have rows : (files.map FileContext.document).map FileDocument.toJson =
      files.map FileContext.toJson := by
    rw [List.map_map]
    rfl
  cases manifest with
  | none => simp only [ContextDocument.toJson, document, rows]; rfl
  | some manifest =>
      simp only [ContextDocument.toJson, document, rows, Option.map_some, Manifest.toJson_document]
      rfl

theorem document_injective : Function.Injective document := by
  intro left right same
  injection same with files manifest
  rcases left
  rcases right
  obtain rfl := List.map_injective_iff.mpr FileContext.document_injective files
  obtain rfl := Option.map_injective Manifest.document_injective manifest
  rfl

theorem same_toJson_iff : left.toJson.Same right.toJson ↔ left.Same right := by
  rw [toJson, toJson, Json.same_object_iff]
  have rows : (Json.array (left.files.map FileContext.toJson)).Same
      (.array (right.files.map FileContext.toJson)) ↔ left.files = right.files := by
    rw [Json.same_array_iff, Json.forall₂_map_iff fun _ _ => FileContext.same_toJson_iff,
      List.forall₂_eq_eq_eq]
  have manifests : ((left.manifest.map Manifest.toJson).getD .null).Same
      ((right.manifest.map Manifest.toJson).getD .null) ↔
        Option.Rel Manifest.Same left.manifest right.manifest := by
    match left.manifest, right.manifest with
    | none, none => exact iff_of_true .null .none
    | none, some _ | some _, none =>
        exact iff_of_false (fun same => nomatch same) (fun same => nomatch same)
    | some first, some second =>
        rw [Option.rel_some_some]
        exact Manifest.same_toJson_iff
  constructor
  · intro each
    exact ⟨rows.mp (by simpa [Keyed.get?] using each "files"),
      manifests.mp (by simpa [Keyed.get?] using each "manifest")⟩
  · intro same key
    simp only [Keyed.get?]
    split
    · exact .some (rows.mpr same.files)
    · exact Json.rel_if (.some (manifests.mpr same.manifest))

def isDistinct (context : ProjectContext) : Bool :=
  context.manifest.all Manifest.isDistinct

/-- Whether no halves that make a character stand side by side in a text of the manifest. -/
def isUnpaired (context : ProjectContext) : Bool :=
  context.manifest.all Manifest.isUnpaired

theorem isWritable_toJson (context : ProjectContext) : context.toJson.isWritable = true := by
  rcases context with ⟨files, manifest⟩
  have rows : (Json.array (files.map FileContext.toJson)).isWritable = true := by
    induction files with
    | nil => rfl
    | cons file others induction =>
        exact Bool.and_eq_true_iff.mpr ⟨file.isWritable_toJson, induction⟩
  have given : ((manifest.map Manifest.toJson).getD .null).isWritable = true := by
    cases manifest with
    | none => rfl
    | some manifest => exact manifest.isWritable_toJson
  simp [toJson, Json.isWritable, Json.membersWritable, given]
  exact rows

theorem isPlain_toJson {context : ProjectContext} (distinct : context.isDistinct = true)
    (unpaired : context.isUnpaired = true) : context.toJson.isPlain = true := by
  rcases context with ⟨files, manifest⟩
  have rows : (Json.array (files.map FileContext.toJson)).isPlain = true := by
    induction files with
    | nil => rfl
    | cons file others induction =>
        exact Bool.and_eq_true_iff.mpr ⟨file.isPlain_toJson, induction distinct unpaired⟩
  have given : ((manifest.map Manifest.toJson).getD .null).isPlain = true := by
    cases manifest with
    | none => rfl
    | some manifest => exact Manifest.isPlain_toJson distinct unpaired
  have names : (["files", "manifest"] : List Coded).Nodup := by decide
  rw [toJson, Json.isPlain_object]
  refine ⟨names, ?_⟩
  simp [Coded.isUnpaired_ofText, rows, given]

theorem depth_toJson_le (context : ProjectContext) : context.toJson.depth ≤ 4 := by
  rcases context with ⟨files, manifest⟩
  have rows : (Json.array (files.map FileContext.toJson)).depth ≤ 3 := by
    refine Nat.succ_le_succ ?_
    induction files with
    | nil => exact Nat.zero_le 2
    | cons file others induction => exact Nat.max_le.mpr ⟨file.depth_toJson_le, induction⟩
  have given : ((manifest.map Manifest.toJson).getD .null).depth ≤ 3 := by
    cases manifest with
    | none => exact Nat.zero_le 3
    | some manifest => exact Nat.le_succ_of_le manifest.depth_toJson_le
  refine Nat.succ_le_succ (Json.membersDepth_le_iff.mpr ?_)
  simp [rows, given]

/-- A snapshot is read back from what is written for it, also from the text of its JSON if its
mappings have no key twice and its texts no pairs of halves. What was read is written as it was. No
other snapshot is read from it, and what is written for two snapshots is the same only if they are.
-/
theorem ofJson_exact (context : ProjectContext) :
    ContextDocument.ofJson context.toJson = .ok context.document ∧
      (context.isDistinct = true → context.isUnpaired = true → ∀ limit, 4 ≤ limit →
        Json.parseWithin limit context.toJson.chars = .ok context.toJson) ∧
      (ContextDocument.ofJson context.toJson).bind ContextDocument.toJson = .ok context.toJson ∧
      ∀ other : ProjectContext,
        (context.document = other.document → context = other) ∧
        (context.toJson.Same other.toJson ↔ context.Same other) := by
  refine ⟨context.ofJson_toJson, fun distinct unpaired limit bounded => ?_, ?_, fun other =>
    ⟨fun same => document_injective same, same_toJson_iff⟩⟩
  · exact Json.parseWithin_chars context.isWritable_toJson (isPlain_toJson distinct unpaired)
      (Nat.le_trans context.depth_toJson_le bounded)
  · rw [ofJson_toJson]
    exact context.toJson_document

def sparseContext : ProjectContext where
  files := [⟨"a", none, [], ["b."]⟩, ⟨"b.", some "", ["a"], []⟩]
  manifest := some ⟨some "", none, some [], none, some [("é", "1")]⟩

theorem ofJson_exact_sparseContext :
    sparseContext.isDistinct = true ∧ sparseContext.isUnpaired = true ∧
      Json.parseWithin 4 sparseContext.toJson.chars = .ok sparseContext.toJson ∧
      ContextDocument.ofJson sparseContext.toJson = .ok sparseContext.document := by
  have distinct : sparseContext.isDistinct = true := by decide
  have unpaired : sparseContext.isUnpaired = true := by decide
  rcases ofJson_exact sparseContext with ⟨readsBack, survives, _⟩
  exact ⟨distinct, unpaired, survives distinct unpaired 4 (Nat.le_refl 4), readsBack⟩

end ProjectContext

end ImportAtlas
