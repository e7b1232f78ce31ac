import SqlWorkflow.Project
import SqlWorkflow.Proofs.Document.Fields
import SqlWorkflow.Proofs.Yaml.Numbers
import SqlWorkflow.Proofs.Yaml.Places
import SqlWorkflow.Proofs.Yaml.Spelled

namespace SqlWorkflow

open SettingsFormat (scalarText? yamlEntries? varValue varEntry exactVar)

namespace SettingsFormat

variable (format : SettingsFormat)

theorem required_ok {α : Type} (read? : Document → Option α) (document : Document) (value : α)
    (read : required read? document = .ok value) : read? document = some value := by
  unfold required at read
  split at read
  · rename_i found
    exact found.trans (congrArg some (Except.ok.inj read))
  · cases read

theorem var_entry_ok (entry : Document × Document) (result : String × Except Binary64 String)
    (read : format.varEntry entry = .ok result) :
    format.text? entry.1 = some result.1 ∧ varValue entry.2 = .ok result.2 := by
  obtain ⟨name, named, read⟩ := (except_bind_ok_iff _ _ _).mp read
  obtain ⟨value, valued, read⟩ := (except_bind_ok_iff _ _ _).mp read
  obtain rfl := Except.ok.inj read
  exact ⟨required_ok _ _ _ named, valued⟩

theorem exact_var_ok (entry : String × Except Binary64 String) (result : String × String)
    (exact : exactVar entry = .ok result) :
    some entry.1 = some result.1 ∧ entry.2 = .ok result.2 := by
  unfold exactVar at exact
  split at exact
  · rename_i text value
    obtain rfl := Except.ok.inj exact
    exact ⟨rfl, value⟩
  · cases exact

theorem vars_read (document : Document) (map : Vars) (read : format.vars document = .ok map) :
    ∃ entries, format.entries? document = some entries ∧ ∀ name,
      Option.Rel (fun value text => varValue value = .ok (.ok text))
        (lastUnder format.text? name entries) (map.get? name) := by
  obtain ⟨entries, found, read⟩ := (except_bind_ok_iff _ _ _).mp read
  obtain ⟨pairs, paired, read⟩ := (except_bind_ok_iff _ _ _).mp read
  obtain ⟨exact, texts, made⟩ := (except_bind_ok_iff _ _ _).mp read
  obtain rfl := Except.ok.inj made
  refine ⟨entries, required_ok _ _ _ found, fun name => ?_⟩
  have values := last_under_rel format.text? some (fun value result => varValue value = .ok result)
    entries pairs ((map_m_ok _ _ _ paired).imp fun entry result => format.var_entry_ok entry result)
    name
  have results := last_under_rel some some (fun result text => result = .ok text)
    (SortedMap.ofList pairs).toList exact
    ((map_m_ok _ _ _ texts).imp fun entry result => exact_var_ok entry result) name
  rw [← get_of_list, SortedMap.of_list_perm _ _ (List.Perm.refl _), get_of_list] at results
  rw [get_of_list]
  exact rel_through values results fun value result text read exact => exact ▸ read

end SettingsFormat

namespace Settings

def fileDocument (text : String) : Document :=
  if Text.isBlankText text then .mapping [] else (Yaml.readDocument text).1

def under? (name : String) (document : Document) : Option Document :=
  (yamlEntries? document).bind (lastUnder scalarText? name)

def statedVar? (document : Document) (name : String) : Option Document :=
  (under? "vars" document).bind (under? name)

theorem file_document_read (text : String) (settings : Settings)
    (loaded : ofYamlText text = .ok settings) : ofDocument .yaml (fileDocument text) = .ok settings := by
  rw [ofYamlText] at loaded
  rw [fileDocument]
  by_cases blank : Text.isBlankText text = true
  · rw [if_pos blank] at loaded ⊢
    exact loaded
  · rw [if_neg blank] at loaded ⊢
    obtain ⟨read, document, loaded⟩ := (except_bind_ok_iff _ _ _).mp loaded
    split at loaded
    · obtain rfl := Except.ok.inj loaded
      exact document
    · cases loaded

theorem vars_owned (format : SettingsFormat) :
    Document.Owns (intake format) "vars" Settings.vars format.vars where
  own value record result taken := by
    obtain ⟨vars, read, rfl⟩ := (except_map_ok_iff _ _ _).mp (Option.some.inj taken)
    exact read
  others name value record result other taken := by
    unfold intake at taken
    split at taken
    all_goals
      first
        | contradiction
        | obtain ⟨_, _, rfl⟩ := (except_map_ok_iff _ _ _).mp (Option.some.inj taken)
          rfl

theorem loaded_variables (text : String) (settings : Settings)
    (loaded : ofYamlText text = .ok settings) (name : String) :
    Option.Rel (fun value text => varValue value = .ok (.ok text))
      (statedVar? (fileDocument text) name) (settings.vars.get? name) := by
  obtain ⟨fields, found, taken⟩ :=
    (except_bind_ok_iff _ _ _).mp (file_document_read text settings loaded)
  have part := Document.take_fields_part scalarText? (vars_owned .yaml) fields [] {} settings taken
  have found : yamlEntries? (fileDocument text) = some fields := SettingsFormat.required_ok _ _ _ found
  rw [statedVar?, under?, found, Option.bind_some]
  cases stated : lastUnder scalarText? "vars" fields with
  | none =>
      rw [stated] at part
      rw [part]
      exact .none
  | some document =>
      rw [stated] at part
      obtain ⟨entries, found, each⟩ := SettingsFormat.vars_read .yaml document settings.vars part
      have found : yamlEntries? document = some entries := found
      rw [Option.bind_some, under?, found]
      exact each name

def keptText? (word : String) : Scalar → Option String
  | .text => some word
  | .int value => some (toString value)
  | .bool value => some (toString value)
  | _ => none

theorem var_value_ok_iff (document : Document) (value : String) :
    varValue document = .ok (.ok value) ↔
      ∃ word typed, document = .scalar word typed ∧ keptText? word typed = some value := by
  constructor
  · intro read
    unfold varValue at read
    split at read
    · cases read
      exact ⟨_, _, rfl, rfl⟩
    · cases read
      exact ⟨_, _, rfl, rfl⟩
    · rename_i flag
      cases read
      exact ⟨_, _, rfl, by cases flag <;> rfl⟩
    · cases read
    · cases read
  · rintro ⟨word, typed, rfl, kept⟩
    cases typed with
    | text => cases kept; rfl
    | int number => cases kept; rfl
    | bool flag => cases kept; cases flag <;> rfl
    | null => cases kept
    | unusable => cases kept
    | float number => cases kept

def plainText? (tag : Option String) (source : String) : Option String :=
  match Yaml.Reader.scalar tag source true with
  | .scalar word typed => keptText? word typed
  | _ => none

-- The words that plain scalars have as their text: those that are no other value, whole numbers in
-- their digits, and the booleans in small letters.
def Verbatim (word : String) : Prop :=
  Yaml.plainValue word = .text ∨
    (∃ number, Document.fitsWord number = true ∧ word = toString number) ∨
    word = "true" ∨ word = "false"

theorem plain_int_fits (word : String) (number : Int)
    (value : Yaml.plainValue word = .int number) : Document.fitsWord number = true := by
  have typed (n : Int) (value : Yaml.intScalar n = .int number) :
      Document.fitsWord number = true := by
    unfold Yaml.intScalar at value
    split at value
    · rename_i fits
      cases value
      exact fits
    · cases value
  unfold Yaml.plainValue at value
  split at value
  · cases value
  · split at value
    · cases value
    · split at value
      · exact typed _ value
      · split at value
        · cases value
        · split at value
          · cases value
          · cases value

theorem kept_verbatim_iff (word : String) :
    keptText? word (Yaml.plainValue word) = some word ↔ Verbatim word := by
  constructor
  · intro kept
    cases value : Yaml.plainValue word with
    | text => exact Or.inl value
    | int number =>
        rw [value] at kept
        exact Or.inr (Or.inl ⟨number, plain_int_fits word number value, (Option.some.inj kept).symm⟩)
    | bool flag =>
        rw [value] at kept
        have same := Option.some.inj kept
        cases flag with
        | true => exact Or.inr (Or.inr (Or.inl same.symm))
        | false => exact Or.inr (Or.inr (Or.inr same.symm))
    | null => rw [value] at kept; cases kept
    | unusable => rw [value] at kept; cases kept
    | float number => rw [value] at kept; cases kept
  · rintro (text | ⟨number, fits, rfl⟩ | rfl | rfl)
    · rw [text]
      rfl
    · rw [Yaml.plain_value_number number fits]
      rfl
    · rfl
    · rfl

structure WrittenPlain (text name : String) (tag : Option String) (source : String) : Prop where
  line : Yaml.Unbroken source.toList
  stands : ∃ front back word, Yaml.PlainAt text front source.toList back word ∧
    statedVar? (fileDocument text) name = some (Yaml.Reader.scalar tag word true)

inductive Written (text name : String) : Prop where
  | plain (tag : Option String) (source : String) (line : WrittenPlain text name tag source)
  | folded (tag : Option String) (front source back : List Char) (word : String)
      (place : Yaml.PlainAt text front source back word) (broken : ¬ Yaml.Unbroken source)
      (stated : statedVar? (fileDocument text) name = some (Yaml.Reader.scalar tag word true))
  | quoted (tag : Option String) (word : String)
      (token : .scalar word false ∈ (Yaml.Token.ofText text).1)
      (stated : statedVar? (fileDocument text) name = some (Yaml.Reader.scalar tag word false))
  | absent (tag : Option String)
      (stated : statedVar? (fileDocument text) name = some (Yaml.Reader.scalar tag "" true))

theorem WrittenPlain.stated {text name : String} {tag : Option String} {source : String}
    (plain : WrittenPlain text name tag source) :
    statedVar? (fileDocument text) name = some (Yaml.Reader.scalar tag source true) := by
  obtain ⟨front, back, word, place, stated⟩ := plain.stands
  rw [stated, String.toList_inj.mp (place.line plain.line)]

theorem under_spelled (tokens : List Yaml.Token) (name : String) (document value : Document)
    (spelled : Yaml.Spelled tokens document) (found : under? name document = some value) :
    Yaml.Spelled tokens value := by
  obtain ⟨entries, listed, last⟩ := Option.bind_eq_some_iff.mp found
  obtain ⟨entry, here, rfl⟩ := Option.map_eq_some_iff.mp last
  have member : entry ∈ entries := List.mem_reverse.mp (List.mem_of_find?_eq_some here)
  unfold yamlEntries? at listed
  split at listed
  · rename_i shape
    cases listed
    exact Yaml.spelled_entries spelled shape entry member
  · cases listed
    cases member
  · cases listed

theorem file_document_spelled (text : String) :
    Yaml.Spelled (Yaml.Token.ofText text).1 (fileDocument text) := by
  unfold fileDocument
  split
  · exact .mapping (fun _ member => absurd member List.not_mem_nil)
      fun _ member => absurd member List.not_mem_nil
  · exact Yaml.read_document_spelled text

theorem scalar_written (text name word : String) (typed : Scalar)
    (stated : statedVar? (fileDocument text) name = some (.scalar word typed)) : Written text name := by
  obtain ⟨vars, found, here⟩ := Option.bind_eq_some_iff.mp stated
  have spelled := under_spelled _ name vars _
    (under_spelled _ "vars" _ vars (file_document_spelled text) found) here
  cases Yaml.spelled_scalar spelled with
  | absent tag same => exact .absent tag (same ▸ stated)
  | token tag word plain member same =>
      rw [same] at stated
      cases plain with
      | false => exact .quoted tag word member stated
      | true =>
          obtain ⟨front, source, back, place⟩ := Yaml.plain_token_place text word member
          by_cases line : Yaml.Unbroken source
          · have whole : (String.ofList source).toList = source := String.toList_ofList
            refine .plain tag (String.ofList source) ⟨whole.symm ▸ line, front, back, word, ?_, stated⟩
            rw [whole]
            exact place
          · exact .folded tag front source back word place line stated

theorem load_text (folder : Folder) (text : String) (settings : Settings)
    (read : folder.read [SettingsSource.workflow.fileName] = .ok text)
    (loaded : SettingsSource.workflow.load folder = .ok settings) :
    ofYamlText text = .ok settings := by
  rw [SettingsSource.load, read] at loaded
  obtain ⟨_, same, loaded⟩ := (except_bind_ok_iff _ _ _).mp loaded
  obtain rfl := Except.ok.inj same
  obtain ⟨stated, states, loaded⟩ := (except_bind_ok_iff _ _ _).mp loaded
  obtain ⟨_, _, same⟩ := (except_bind_ok_iff _ _ _).mp loaded
  obtain rfl := Except.ok.inj same
  exact (map_error_ok_iff _ _ _).mp states

theorem plain_variable (text : String) (settings : Settings)
    (loaded : ofYamlText text = .ok settings) (name : String) (tag : Option String)
    (source : String) (plain : WrittenPlain text name tag source) :
    ∃ value, plainText? tag source = some value ∧ settings.vars.get? name = some value := by
  have all := loaded_variables text settings loaded name
  rw [plain.stated] at all
  generalize settings.vars.get? name = found at all ⊢
  cases all with
  | some kept =>
      obtain ⟨word, typed, same, value⟩ := (var_value_ok_iff _ _).mp kept
      exact ⟨_, by rw [plainText?, same]; exact value, rfl⟩

theorem plain_scalar (word : String) :
    Yaml.Reader.scalar none word true = .scalar word (Yaml.plainValue word) := rfl

theorem plain_text_none_iff (source : String) :
    plainText? none source = none ↔ Yaml.plainValue source = .null ∨
      Yaml.plainValue source = .unusable ∨ ∃ number, Yaml.plainValue source = .float number := by
  rw [plainText?, plain_scalar]
  cases Yaml.plainValue source <;> simp [keptText?]

-- Every variable that a file sets is found in it. One written as a plain scalar on one line has its
-- text exactly where the words say so; a number has its digits and a boolean its small letters,
-- however it is spelled. What has no such text is refused.
theorem plain_variables (folder : Folder) (text : String)
    (read : folder.read [SettingsSource.workflow.fileName] = .ok text) :
    (∀ settings, SettingsSource.workflow.load folder = .ok settings →
      (∀ name value, settings.vars.get? name = some value → Written text name) ∧
      (∀ name tag source, WrittenPlain text name tag source →
        ∃ value, plainText? tag source = some value ∧ settings.vars.get? name = some value) ∧
      ∀ name source, WrittenPlain text name none source →
        (settings.vars.get? name = some source ↔ Verbatim source)) ∧
    (∀ name tag source, WrittenPlain text name tag source → plainText? tag source = none →
      ∃ error, SettingsSource.workflow.load folder = .error error) ∧
    (∀ source, plainText? none source = none ↔ Yaml.plainValue source = .null ∨
      Yaml.plainValue source = .unusable ∨ ∃ number, Yaml.plainValue source = .float number) ∧
    (∀ source number, Yaml.int? source.toList = some number → Document.fitsWord number = true →
      plainText? none source = some (toString number)) ∧
    ∀ source flag, Yaml.bool? source = some flag →
      plainText? none source = some (toString flag) := by
  refine ⟨fun settings loaded => ?_, fun name tag source plain refused => ?_, plain_text_none_iff,
    fun source number spells fits => ?_, fun source flag spells => ?_⟩
  · have stated := load_text folder text settings read loaded
    have plain := plain_variable text settings stated
    refine ⟨fun name value got => ?_, plain, fun name source writes => ?_⟩
    · have all := loaded_variables text settings stated name
      rw [got] at all
      generalize found : statedVar? (fileDocument text) name = document at all
      cases all with
      | some kept =>
          obtain ⟨word, typed, rfl, _⟩ := (var_value_ok_iff _ _).mp kept
          exact scalar_written text name word typed found
    · obtain ⟨value, has, got⟩ := plain name none source writes
      rw [got, ← has]
      exact kept_verbatim_iff source
  · cases loaded : SettingsSource.workflow.load folder with
    | error error => exact ⟨error, rfl⟩
    | ok settings =>
        have stated := load_text folder text settings read loaded
        obtain ⟨value, has, _⟩ := plain_variable text settings stated name tag source plain
        rw [refused] at has
        cases has
  · rw [plainText?, plain_scalar, Yaml.plain_value_int source number spells fits]
    rfl
  · rw [plainText?, plain_scalar, Yaml.plain_value_bool source flag spells]
    rfl

def fileOnly (text : String) : Folder where
  path := "project"
  tree := .directory [(SettingsSource.workflow.fileName, .file (some text))]

def holdsScalar (word : String) : Option Document → Bool
  | some (.scalar found value) => found == word && value == Yaml.plainValue word
  | _ => false

theorem stated_scalar (document : Option Document) (word : String)
    (holds : holdsScalar word document = true) :
    document = some (Yaml.Reader.scalar none word true) := by
  unfold holdsScalar at holds
  split at holds
  · obtain ⟨rfl, rfl⟩ := by simpa using holds
    rfl
  · cases holds

def numbersText : String := "vars:\n  port: 8080\n  mask: 0x1F\n"

def versionText : String := "vars:\n  version: 1.10\n"

theorem samples_read :
    holdsScalar "8080" (statedVar? (fileDocument numbersText) "port") = true ∧
    holdsScalar "0x1F" (statedVar? (fileDocument numbersText) "mask") = true ∧
    holdsScalar "1.10" (statedVar? (fileDocument versionText) "version") = true ∧
    (SettingsSource.workflow.load (fileOnly numbersText)).toOption =
      some { vars := SortedMap.ofList [("port", "8080"), ("mask", "31")] } := by
  decide +kernel

theorem port_plain : WrittenPlain numbersText "port" none "8080" where
  line := by decide
  stands := by
    refine ⟨"vars:\n  port: ".toList, "\n  mask: 0x1F\n".toList, "8080", ⟨rfl, ?_⟩,
      stated_scalar _ _ samples_read.1⟩
    refine ⟨4, _, rfl, rfl, _, _, _, rfl, rfl, rfl, ?_⟩
    exact ⟨⟨"\n  ".toList, rfl, by decide⟩, by decide, fun _ => rfl⟩

theorem mask_plain : WrittenPlain numbersText "mask" none "0x1F" where
  line := by decide
  stands := by
    refine ⟨"vars:\n  port: 8080\n  mask: ".toList, ['\n'], "0x1F", ⟨rfl, ?_⟩,
      stated_scalar _ _ samples_read.2.1⟩
    refine ⟨7, _, rfl, rfl, _, _, _, rfl, rfl, rfl, ?_⟩
    exact ⟨⟨['\n'], rfl, by decide⟩, by decide, fun _ => rfl⟩

theorem version_plain : WrittenPlain versionText "version" none "1.10" where
  line := by decide
  stands := by
    refine ⟨"vars:\n  version: ".toList, ['\n'], "1.10", ⟨rfl, ?_⟩,
      stated_scalar _ _ samples_read.2.2.1⟩
    refine ⟨4, _, rfl, rfl, _, _, _, rfl, rfl, rfl, ?_⟩
    exact ⟨⟨['\n'], rfl, by decide⟩, by decide, fun _ => rfl⟩

theorem numbers_loaded : SettingsSource.workflow.load (fileOnly numbersText) =
    .ok { vars := SortedMap.ofList [("port", "8080"), ("mask", "31")] } :=
  to_option_some _ _ samples_read.2.2.2

theorem port_kept_version_refused :
    (∃ settings, SettingsSource.workflow.load (fileOnly numbersText) = .ok settings ∧
      settings.vars.get? "port" = some "8080" ∧ Written numbersText "mask") ∧
    plainText? none "-0b11" = some "-3" ∧ plainText? none "TRUE" = some "true" ∧
    ∃ error, SettingsSource.workflow.load (fileOnly versionText) = .error error := by
  have digits : Verbatim "8080" := Or.inr (Or.inl ⟨8080, by decide, by decide⟩)
  obtain ⟨loads, _, _, numbers, flags⟩ :=
    plain_variables (fileOnly numbersText) numbersText rfl
  obtain ⟨_, refuses, _⟩ := plain_variables (fileOnly versionText) versionText rfl
  obtain ⟨written, _, verbatim⟩ := loads _ numbers_loaded
  refine ⟨⟨_, numbers_loaded, (verbatim "port" "8080" port_plain).mpr digits, ?_⟩, ?_, ?_, ?_⟩
  · exact written "mask" "31" rfl
  · exact numbers "-0b11" (-3) (by decide) (by decide)
  · exact flags "TRUE" true (by decide)
  · exact refuses "version" none "1.10" version_plain rfl

theorem mask_loaded_otherwise :
    WrittenPlain numbersText "mask" none "0x1F" ∧
      ∃ settings, SettingsSource.workflow.load (fileOnly numbersText) = .ok settings ∧
        settings.vars.get? "mask" = some "31" :=
  ⟨mask_plain, _, numbers_loaded, rfl⟩

end Settings

end SqlWorkflow
