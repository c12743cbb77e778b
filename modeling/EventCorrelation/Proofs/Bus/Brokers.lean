import EventCorrelation.Bus.Client
import EventCorrelation.Proofs.Outcomes
import EventCorrelation.Proofs.Text.Pieces
import EventCorrelation.Proofs.Text.Trimming
import Mathlib.Data.List.Forall2

/-!
# Lists of brokers

The brokers of a text are its pieces between commas that are not blank, each without the blanks at
its ends. Such brokers hold no commas, so a client that joins them into one property gives a text of
the same brokers.
-/

namespace EventCorrelation

theorem servers_of_common {brokers : List String} {version : String} {security : Security}
    {common : Properties} (made : Settings.commonProperties brokers version security = .ok common)
    (own : Properties) :
    (common ++ own).lookup "bootstrap.servers" = some (Brokers.join brokers) := by
  obtain ⟨known, -, made⟩ := exists_of_bind made
  obtain ⟨protection, -, made⟩ := exists_of_bind made
  cases made
  rfl

namespace ClientSettings

def brokers : ClientSettings → List String
  | .producer settings => settings.brokers
  | .member settings => settings.brokers
  | .watcher settings => settings.brokers

/-- The text that a client connects to. -/
theorem servers_of_properties {settings : ClientSettings} {process : String}
    {properties : Properties} (made : settings.properties process = .ok properties) :
    properties.lookup "bootstrap.servers" = some (Brokers.join settings.brokers) := by
  cases settings with
  | producer settings =>
    obtain ⟨common, madeCommon, made⟩ := exists_of_bind made
    cases made
    exact servers_of_common madeCommon _
  | member settings | watcher settings =>
    obtain ⟨_, -, made⟩ := exists_of_bind made
    obtain ⟨common, madeCommon, made⟩ := exists_of_bind made
    cases made
    exact servers_of_common madeCommon _

end ClientSettings

namespace Brokers

/-- The brokers stand in the text between commas, in order, with blanks around them and blank pieces
between them. -/
def ListedIn (text : String) (brokers : List String) : Prop :=
  ∃ cut, Text.Cut ',' text cut ∧
    List.Forall₂ Text.TrimsTo (cut.filter fun piece => !Text.allBlank piece) brokers

/-- What a broker in a list looks like. -/
structure IsEntry (broker : String) : Prop where
  nonempty : broker ≠ ""
  separate : ',' ∉ broker.toList
  bare : Text.Trimmed broker.toList

theorem isEmpty_trimBlanks (symbols : List Char) :
    (Text.trimBlanks symbols).isEmpty = Text.allBlank (String.ofList symbols) := by
  rw [Bool.eq_iff_iff, List.isEmpty_iff, Text.trimBlanks_eq_nil_iff, Text.allBlank,
    List.all_eq_true, String.toList_ofList]

theorem parse_eq_map_trim (text : String) :
    parse text = (((Text.pieces ',' text.toList).map String.ofList).filter
      fun piece => !Text.allBlank piece).map Text.trim := by
  rw [parse, List.filter_map, List.filter_map, List.map_map, List.map_map]
  simp only [Function.comp_def, isEmpty_trimBlanks, Text.trim, String.toList_ofList]

theorem parse_eq_iff {text : String} {brokers : List String} :
    parse text = brokers ↔ ListedIn text brokers := by
  have trims : ∀ pieces : List String,
      List.Forall₂ Text.TrimsTo pieces brokers ↔ pieces.map Text.trim = brokers := by
    intro pieces
    rw [← List.forall₂_eq_eq_eq, List.forall₂_map_left_iff]
    exact ⟨fun all => all.imp fun _ _ => Text.trimsTo_iff.mp,
      fun all => all.imp fun _ _ => Text.trimsTo_iff.mpr⟩
  simp only [ListedIn, Text.cut_iff, trims, exists_eq_left', parse_eq_map_trim]

theorem isEntry_of_mem_parse {text broker : String} (listed : broker ∈ parse text) :
    IsEntry broker := by
  rw [parse, List.mem_map] at listed
  obtain ⟨symbols, kept, rfl⟩ := listed
  obtain ⟨isTrimmed, nonempty⟩ := List.mem_filter.mp kept
  obtain ⟨piece, isPiece, rfl⟩ := List.mem_map.mp isTrimmed
  refine ⟨?_, ?_, ?_⟩
  · simpa using nonempty
  · rw [String.toList_ofList]
    exact fun isMember => Text.not_mem_of_mem_pieces isPiece (Text.mem_of_mem_trimBlanks isMember)
  · rw [String.toList_ofList]
    exact Text.trimmed_trimBlanks piece

theorem IsEntry.not_allBlank {broker : String} (entry : IsEntry broker) :
    Text.allBlank broker = false := by
  have bare := Text.trimBlanks_of_trimmed entry.bare
  rw [← Bool.not_eq_true, ← String.ofList_toList (s := broker), ← isEmpty_trimBlanks, bare]
  simpa using entry.nonempty

/-- Brokers of this look are read back from the joined text. -/
theorem parse_join {brokers : List String} (entries : ∀ broker ∈ brokers, IsEntry broker) :
    parse (join brokers) = brokers := by
  cases brokers with
  | nil => rfl
  | cons first rest =>
    have cut : Text.Cut ',' (join (first :: rest)) (first :: rest) :=
      ⟨List.cons_ne_nil first rest, fun broker listed => (entries broker listed).separate, rfl⟩
    have kept : (first :: rest).filter (fun broker => !Text.allBlank broker) = first :: rest :=
      List.filter_eq_self.mpr fun broker listed => by simp [(entries broker listed).not_allBlank]
    have trims : ∀ broker ∈ first :: rest, Text.TrimsTo broker broker :=
      fun broker listed => ⟨⟨[], [], nofun, by simp⟩, (entries broker listed).bare⟩
    rw [parse_eq_iff]
    exact ⟨_, cut, by rw [kept]; exact List.forall₂_same.mpr trims⟩

theorem parse_ne_nil_iff {text : String} :
    parse text ≠ [] ↔ ∃ cut, Text.Cut ',' text cut ∧ ∃ piece ∈ cut, Text.allBlank piece = false := by
  simp only [Text.cut_iff, exists_eq_left', parse_eq_map_trim, Ne, List.map_eq_nil_iff,
    List.filter_eq_nil_iff, not_forall, Bool.not_eq_true', not_not, exists_prop]

theorem isEnabled_iff (environment : Environment) :
    (ProducerSettings.ofEnvironment environment).isEnabled = true ↔
      ∃ text cut, environment variableName = some text ∧ Text.Cut ',' text cut ∧
        ∃ piece ∈ cut, Text.allBlank piece = false := by
  have lists : (ProducerSettings.ofEnvironment environment).isEnabled = true ↔
      parse ((environment variableName).getD "") ≠ [] := by
    rw [ProducerSettings.isEnabled, Bool.not_eq_true', Ne, ← List.isEmpty_iff, Bool.not_eq_true]
    rfl
  rw [lists]
  cases environment variableName with
  | none => simp [show parse "" = [] from rfl]
  | some text => simp [parse_ne_nil_iff]

/-- The brokers of a text are its pieces between commas that are not blank, in order and without the
blanks at their ends. So no broker is empty, holds a comma or has a blank at an end, and the text that
a client of any kind joins them into has the same brokers again. A producer publishes just if its
environment lists a piece that is not blank. -/
theorem parsed_and_rejoined :
    (∀ (text : String) (brokers : List String),
      parse text = brokers ↔ ListedIn text brokers) ∧
    (∀ text, ∀ broker ∈ parse text, IsEntry broker) ∧
    (∀ text, parse (join (parse text)) = parse text) ∧
    (∀ (text : String) (settings : ClientSettings) (process : String) (properties : Properties),
      settings.brokers = parse text → settings.properties process = .ok properties →
      ∃ servers, properties.lookup "bootstrap.servers" = some servers ∧
        parse servers = parse text) ∧
    ∀ environment : Environment,
      (ProducerSettings.ofEnvironment environment).isEnabled = true ↔
        ∃ text cut, environment variableName = some text ∧ Text.Cut ',' text cut ∧
          ∃ piece ∈ cut, Text.allBlank piece = false := by
  have rejoined : ∀ text, parse (join (parse text)) = parse text :=
    fun text => parse_join fun broker => isEntry_of_mem_parse
  refine ⟨fun _ _ => parse_eq_iff, fun _ _ => isEntry_of_mem_parse, rejoined, ?_, isEnabled_iff⟩
  intro text settings process properties parsed made
  refine ⟨join settings.brokers, ClientSettings.servers_of_properties made, ?_⟩
  rw [parsed, rejoined]

/-- Blanks of Unicode go like others, and so do empty pieces at either end. -/
theorem two_among_blanks :
    let text := ", a:9092 ,,\u3000b\n, "
    let settings := ClientSettings.member (.ofBrokers (parse text) ["jobs"] "intake")
    let environment : Environment := fun name => [(variableName, text)].lookup name
    ListedIn text ["a:9092", "b"] ∧ (∀ broker ∈ ["a:9092", "b"], IsEntry broker) ∧
      (∃ properties servers, settings.properties "process" = .ok properties ∧
        properties.lookup "bootstrap.servers" = some servers ∧ parse servers = ["a:9092", "b"]) ∧
      (ProducerSettings.ofEnvironment environment).isEnabled = true := by
  intro text settings environment
  obtain ⟨listed, entries, -, rejoined, enabled⟩ := parsed_and_rejoined
  have parsed : parse text = ["a:9092", "b"] := by decide +kernel
  refine ⟨(listed text _).mp parsed, fun broker isMember => ?_, ?_, ?_⟩
  · exact entries text broker (by rwa [parsed])
  · have complete : (settings.properties "process").isOk = true := by decide +kernel
    cases made : settings.properties "process" with
    | error fault =>
      rw [made] at complete
      cases complete
    | ok properties =>
      obtain ⟨servers, found, same⟩ := rejoined text settings "process" properties rfl made
      exact ⟨properties, servers, rfl, found, same.trans parsed⟩
  · have cut : Text.Cut ',' text ["", " a:9092 ", "", "\u3000b\n", " "] :=
      Text.cut_iff.mpr (by decide +kernel)
    exact (enabled environment).mpr ⟨text, _, rfl, cut, " a:9092 ", by simp, by decide⟩

end Brokers

end EventCorrelation
