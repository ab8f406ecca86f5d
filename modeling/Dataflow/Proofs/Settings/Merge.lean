import Dataflow.Proofs.Toml.Orderly
import Dataflow.Settings.Load

/-!
# Settings merged key by key

What settings a document has, where its four sections are tables, and what becomes of a file that
has none.

* `Settings.Key` — the six settings by where documents write them, each with its type.
* `Settings.Gives`, `Settings.gives_iff` — what a document gives for a setting.  As names stand
  only once in a table, this is a question of membership and not of order.
* `Settings.ofTable?_eq_some_iff` — a document has the settings that agree with it at each key.
  `Settings.combine` puts together settings for each key on their own.
* `Settings.merge_exact` — the settings of a text and of a file.
-/

namespace Dataflow.Settings

open Toml (Node Table)

/-! ## Keys -/

/-- A setting, as documents write it. -/
inductive Key where
  | defaultCapacity
  | rejectUnknownFields
  | closeLeakedCapabilities
  | logLevel
  | logDirectory
  | logFile
  deriving DecidableEq, Repr

namespace Key

/-- The section in which the setting is written. -/
def header : Key → String
  | defaultCapacity => "ports"
  | rejectUnknownFields => "snapshot"
  | closeLeakedCapabilities => "lifecycle"
  | logLevel | logDirectory | logFile => "logging"

/-- The name of the setting in its section. -/
def name : Key → String
  | defaultCapacity => "default_capacity"
  | rejectUnknownFields => "reject_unknown_fields"
  | closeLeakedCapabilities => "close_leaked_capabilities"
  | logLevel => "level"
  | logDirectory => "directory"
  | logFile => "file_name"

/-- The node has the type of the setting. -/
def Typed (node : Node) : Key → Prop
  | defaultCapacity => ∃ n : Nat, node = .int n
  | rejectUnknownFields | closeLeakedCapabilities => ∃ b, node = .bool b
  | logLevel | logDirectory | logFile => ∃ s, node = .str s

/-- How the setting is written; not at all, if it is a directory that is not set. -/
def written (settings : Settings) : Key → Option Node
  | defaultCapacity => some (.int settings.defaultCapacity)
  | rejectUnknownFields => some (.bool settings.rejectUnknownFields)
  | closeLeakedCapabilities => some (.bool settings.closeLeakedCapabilities)
  | logLevel => some (.str settings.logLevel)
  | logDirectory => settings.logDirectory.map .str
  | logFile => some (.str settings.logFile)

theorem typed_iff_written {key : Key} {node : Node} :
    key.Typed node ↔ ∃ settings, key.written settings = some node := by
  constructor
  · intro typed
    cases key with
    | defaultCapacity =>
        obtain ⟨n, rfl⟩ := typed
        exact ⟨{ defaultCapacity := n }, rfl⟩
    | rejectUnknownFields =>
        obtain ⟨b, rfl⟩ := typed
        exact ⟨{ rejectUnknownFields := b }, rfl⟩
    | closeLeakedCapabilities =>
        obtain ⟨b, rfl⟩ := typed
        exact ⟨{ closeLeakedCapabilities := b }, rfl⟩
    | logLevel =>
        obtain ⟨s, rfl⟩ := typed
        exact ⟨{ logLevel := s }, rfl⟩
    | logDirectory =>
        obtain ⟨s, rfl⟩ := typed
        exact ⟨{ logDirectory := some s }, rfl⟩
    | logFile =>
        obtain ⟨s, rfl⟩ := typed
        exact ⟨{ logFile := s }, rfl⟩
  · rintro ⟨settings, same⟩
    cases key with
    | logDirectory =>
        obtain ⟨s, _, rfl⟩ := Option.map_eq_some_iff.1 same
        exact ⟨s, rfl⟩
    | _ =>
        cases same
        exact ⟨_, rfl⟩

end Key

/-- The settings that have at each key what the settings chosen for it have there. -/
def combine (chosen : Key → Settings) : Settings where
  defaultCapacity := (chosen .defaultCapacity).defaultCapacity
  rejectUnknownFields := (chosen .rejectUnknownFields).rejectUnknownFields
  closeLeakedCapabilities := (chosen .closeLeakedCapabilities).closeLeakedCapabilities
  logLevel := (chosen .logLevel).logLevel
  logDirectory := (chosen .logDirectory).logDirectory
  logFile := (chosen .logFile).logFile

theorem written_combine (chosen : Key → Settings) (key : Key) :
    key.written (combine chosen) = key.written (chosen key) := by
  cases key <;> rfl

/-! ## What documents give -/

/-- Each of the four sections is a table, if the document has it. -/
def Tabular (document : Table) : Prop :=
  ∀ key : Key, ∀ node, (key.header, node) ∈ document →
    ∃ origin members, node = .table origin members

/-- The document has the node under the name of the setting in its section. -/
def Gives (document : Table) (key : Key) (node : Node) : Prop :=
  ∃ origin members, (key.header, .table origin members) ∈ document ∧ (key.name, node) ∈ members

/-- The members of the table under a header, if there is one. -/
def membersUnder (header : String) (document : Table) : Table :=
  match document.find? header with
  | some (.table _ members) => members
  | _ => []

/-- What the document says of the setting. -/
def given? (document : Table) (key : Key) : Option Node :=
  (membersUnder key.header document).find? key.name

variable {document other : Table} {settings : Settings} {key : Key} {node : Node}

theorem gives_iff (orderly : document.Orderly) :
    Gives document key node ↔ given? document key = some node := by
  rw [given?, membersUnder]
  constructor
  · rintro ⟨origin, members, there, inside⟩
    have found := orderly.mem_iff.1 there
    have inner := Toml.Table.orderly_of_node (orderly.find? found)
    rw [found]
    exact inner.mem_iff.1 inside
  · intro found
    split at found
    · rename_i origin members there
      exact ⟨origin, members, Entries.mem_of_find? there, Entries.mem_of_find? found⟩
    · cases found

theorem find?_of_tabular (tabular : Tabular document) (key : Key) :
    Section.find? key.header document = some (.named (membersUnder key.header document)) := by
  rw [Section.find?, membersUnder]
  cases found : document.find? key.header with
  | none => rfl
  | some node =>
      obtain ⟨origin, members, rfl⟩ := tabular key node (Entries.mem_of_find? found)
      rfl

/-! ## Reading each setting -/

/-- The settings have at the key what the document gives, or else the default. -/
def Agrees (document : Table) (settings : Settings) (key : Key) : Prop :=
  key.written settings = (given? document key).or (key.written {})

/-- What is decoded from a node is what the node writes. -/
structure Decodes {α : Type} (decode : Node → Option α) (write : α → Option Node) : Prop where
  exact : ∀ node a, decode node = some a ↔ write a = some node
  injective : Function.Injective write

theorem Decodes.setting?_iff {α : Type} {decode : Node → Option α} {write : α → Option Node}
    (decodes : Decodes decode write) {default a : α} {place : Nat} {name : String}
    {members : Table} :
    (Section.named members).setting? decode default place name = some a ↔
      write a = (members.find? name).or (write default) := by
  rw [Section.setting?, Section.value?]
  cases members.find? name with
  | none =>
      rw [Option.none_or]
      exact Option.some_inj.trans (eq_comm.trans decodes.injective.eq_iff.symm)
  | some node => exact decodes.exact node a

theorem decodes_nat : Decodes Node.asNat? fun n => some (.int n) where
  exact node n := by
    cases node with
    | int m =>
        rw [Node.asNat?, Option.some_inj, Node.int.injEq]
        by_cases nonneg : 0 ≤ m
        · rw [if_pos nonneg, Option.some_inj]
          omega
        · rw [if_neg nonneg]
          simp only [reduceCtorEq, false_iff]
          omega
    | _ => simp [Node.asNat?]
  injective m n same := Int.ofNat.inj (Node.int.inj (Option.some.inj same))

theorem decodes_bool : Decodes Node.asBool? fun b => some (.bool b) where
  exact node b := by cases node <;> simp [Node.asBool?, eq_comm]
  injective b c same := Node.bool.inj (Option.some.inj same)

theorem decodes_string : Decodes Node.asString? fun s => some (.str s) where
  exact node s := by cases node <;> simp [Node.asString?, eq_comm]
  injective s t same := Node.str.inj (Option.some.inj same)

theorem decodes_directory :
    Decodes (fun node => node.asString?.map some) (Option.map Node.str) where
  exact node directory := by
    constructor
    · intro read
      obtain ⟨s, string, rfl⟩ := Option.map_eq_some_iff.1 read
      exact (decodes_string.exact node s).1 string
    · intro same
      obtain ⟨s, rfl, rfl⟩ := Option.map_eq_some_iff.1 same
      rfl
  injective := Option.map_injective fun _ _ => Node.str.inj

/-- A document whose sections are tables has the settings that agree with it at every key. -/
theorem ofTable?_eq_some_iff (tabular : Tabular document) :
    ofTable? document = some settings ↔ ∀ key, Agrees document settings key := by
  have ports := find?_of_tabular tabular .defaultCapacity
  have snapshot := find?_of_tabular tabular .rejectUnknownFields
  have lifecycle := find?_of_tabular tabular .closeLeakedCapabilities
  have logging := find?_of_tabular tabular .logLevel
  -- the three keys of the last section have one header
  simp only [Key.header] at ports snapshot lifecycle logging
  simp only [ofTable?, ports, snapshot, lifecycle, logging, Option.bind_eq_bind, Option.bind_some,
    Option.bind_eq_some_iff]
  constructor
  · rintro ⟨capacity, first, reject, second, close, third, level, fourth, directory, fifth, file,
      sixth, same⟩ key
    cases same
    cases key with
    | defaultCapacity => exact decodes_nat.setting?_iff.1 first
    | rejectUnknownFields => exact decodes_bool.setting?_iff.1 second
    | closeLeakedCapabilities => exact decodes_bool.setting?_iff.1 third
    | logLevel => exact decodes_string.setting?_iff.1 fourth
    | logDirectory => exact decodes_directory.setting?_iff.1 fifth
    | logFile => exact decodes_string.setting?_iff.1 sixth
  · intro agrees
    exact ⟨_, decodes_nat.setting?_iff.2 (agrees .defaultCapacity),
      _, decodes_bool.setting?_iff.2 (agrees .rejectUnknownFields),
      _, decodes_bool.setting?_iff.2 (agrees .closeLeakedCapabilities),
      _, decodes_string.setting?_iff.2 (agrees .logLevel),
      _, decodes_directory.setting?_iff.2 (agrees .logDirectory),
      _, decodes_string.setting?_iff.2 (agrees .logFile), rfl⟩

/-- Whether there are settings that agree with a document is a matter of each key alone. -/
theorem exists_agrees_iff :
    (∃ settings, ∀ key, Agrees document settings key) ↔
      ∀ key node, given? document key = some node → key.Typed node := by
  constructor
  · rintro ⟨settings, agrees⟩ key node given
    refine Key.typed_iff_written.2 ⟨settings, ?_⟩
    rw [agrees key, given, Option.some_or]
  · intro typed
    -- settings are chosen for each key on its own, and only then put together
    have each : ∀ key, ∃ settings, Agrees document settings key := by
      intro key
      cases given : given? document key with
      | none => exact ⟨{}, by rw [Agrees, given, Option.none_or]⟩
      | some node =>
          obtain ⟨settings, same⟩ := Key.typed_iff_written.1 (typed key node given)
          exact ⟨settings, by rw [Agrees, given, Option.some_or, same]⟩
    obtain ⟨chosen, agrees⟩ := Classical.skolem.1 each
    exact ⟨combine chosen, fun key => (written_combine chosen key).trans (agrees key)⟩

/-! ## Texts and files -/

/-- The settings of a text are those of its document, merged key by key. -/
structure Merged (text : String) (document : Table) : Prop where
  /-- There are settings if all that is given for them has the right type. -/
  accepted : (∃ settings, parse? text = some settings) ↔
    ∀ key node, Gives document key node → key.Typed node
  /-- What is given is taken over. -/
  given : ∀ settings, parse? text = some settings →
    ∀ key node, Gives document key node → key.written settings = some node
  /-- What is not given has its default. -/
  default : ∀ settings, parse? text = some settings →
    ∀ key, (∀ node, ¬Gives document key node) → key.written settings = key.written {}
  /-- No setting depends on what else a document holds. -/
  separate : ∀ text' document', Toml.parse? text' = some document' → Tabular document' →
    ∀ settings settings', parse? text = some settings → parse? text' = some settings' →
      ∀ key, (∀ node, Gives document key node ↔ Gives document' key node) →
        key.written settings = key.written settings'
  /-- Documents that give the same have the same settings, or neither has any. -/
  same : ∀ text' document', Toml.parse? text' = some document' → Tabular document' →
    (∀ key node, Gives document key node ↔ Gives document' key node) →
      parse? text = parse? text'
  /-- One wrong value, and a file with the text counts for nothing. -/
  discarded : ∀ key node, Gives document key node → ¬key.Typed node →
    ∀ path, (SettingsFile.found path (some text)).load.value = {} ∧
      (ofFile path (some text)).value = .error (.malformed path)

/-- A file gives the settings of its whole text, or the process has the defaults. -/
structure AllOrNothing (path : String) : Prop where
  taken : ∀ text settings, parse? text = some settings →
    (SettingsFile.found path (some text)).load.value = settings ∧
      (ofFile path (some text)).value = .ok settings
  malformed : ∀ text, parse? text = none →
    (SettingsFile.found path (some text)).load.value = {} ∧
      (ofFile path (some text)).value = .error (.malformed path)
  unreadable : (SettingsFile.found path none).load.value = {} ∧
    (ofFile path none).value = .error (.unreadable path)

theorem allOrNothing (path : String) : AllOrNothing path where
  taken text settings read := by
    simp only [SettingsFile.load, ofFile, Logged.value_bind, Logged.value_pure, read, and_self]
  malformed text read := by
    simp only [SettingsFile.load, ofFile, Logged.value_bind, Logged.value_pure, read, and_self]
  unreadable := by
    simp only [SettingsFile.load, ofFile, Logged.value_bind, Logged.value_pure, and_self]

theorem parse?_eq_some_iff {text : String} (read : Toml.parse? text = some document)
    (tabular : Tabular document) :
    parse? text = some settings ↔ ∀ key, Agrees document settings key := by
  rw [parse?, read, Option.bind_some, ofTable?_eq_some_iff tabular]

theorem given?_congr (orderly : document.Orderly) (orderly' : other.Orderly)
    (same : ∀ node, Gives document key node ↔ Gives other key node) :
    given? document key = given? other key := by
  ext node
  rw [← gives_iff orderly, ← gives_iff orderly', same]

theorem merged {text : String} (read : Toml.parse? text = some document)
    (tabular : Tabular document) : Merged text document := by
  have orderly := Toml.orderly_parse? read
  have accepted : (∃ settings, parse? text = some settings) ↔
      ∀ key node, Gives document key node → key.Typed node := by
    simp only [parse?_eq_some_iff read tabular, exists_agrees_iff, gives_iff orderly]
  refine { accepted, given := ?_, default := ?_, separate := ?_, same := ?_, discarded := ?_ }
  · intro settings has key node gives
    rw [(parse?_eq_some_iff read tabular).1 has key, (gives_iff orderly).1 gives, Option.some_or]
  · intro settings has key silent
    have nothing : given? document key = none :=
      Option.eq_none_iff_forall_ne_some.2 fun node given =>
        silent node ((gives_iff orderly).2 given)
    rw [(parse?_eq_some_iff read tabular).1 has key, nothing, Option.none_or]
  · intro text' document' read' tabular' settings settings' has has' key same
    rw [(parse?_eq_some_iff read tabular).1 has key, (parse?_eq_some_iff read' tabular').1 has' key,
      given?_congr orderly (Toml.orderly_parse? read') same]
  · intro text' document' read' tabular' same
    ext settings
    rw [parse?_eq_some_iff read tabular, parse?_eq_some_iff read' tabular']
    refine forall_congr' fun key => ?_
    rw [Agrees, Agrees, given?_congr orderly (Toml.orderly_parse? read') (same key)]
  · intro key node gives wrong path
    refine (allOrNothing path).malformed text (Option.eq_none_iff_forall_ne_some.2 ?_)
    intro settings has
    exact wrong (accepted.1 ⟨settings, has⟩ key node gives)

/-- The settings of a document whose sections are tables are merged key by key, and a file is used
as a whole or not at all. -/
theorem merge_exact :
    (∀ text document, Toml.parse? text = some document → Tabular document →
      Merged text document) ∧
    ∀ path, AllOrNothing path :=
  ⟨fun _ _ => merged, allOrNothing⟩

/-- A text with one wrong value, and a right one in another section. -/
def wrongText : String :=
  "[ports]\ndefault_capacity = \"five\"\n[snapshot]\nreject_unknown_fields = true\n"

/-- The document of `wrongText`. -/
def wrongDocument : Table :=
  [("ports", .table .header [("default_capacity", .str "five")]),
    ("snapshot", .table .header [("reject_unknown_fields", .bool true)])]

theorem wrongText_discarded :
    Toml.parse? wrongText = some wrongDocument ∧ Tabular wrongDocument ∧
      (SettingsFile.found "config.toml" (some wrongText)).load.value = {} := by
  have read : Toml.parse? wrongText = some wrongDocument := by cbv
  have tabular : Tabular wrongDocument := by
    intro key node member
    rcases List.mem_cons.1 member with here | later
    · exact ⟨_, _, (Prod.mk.inj here).2⟩
    · exact ⟨_, _, (Prod.mk.inj (List.mem_singleton.1 later)).2⟩
  have gives : Gives wrongDocument .defaultCapacity (.str "five") :=
    ⟨_, _, List.mem_cons_self .., List.mem_cons_self ..⟩
  have untyped : ¬Key.Typed (.str "five") .defaultCapacity := by
    rintro ⟨n, same⟩
    cases same
  have result := (merge_exact.1 wrongText wrongDocument read tabular).discarded _ _ gives untyped
  exact ⟨read, tabular, (result "config.toml").1⟩

/-- Sections written in part, with an unknown name, leave the other settings at their defaults. -/
example : parse? "[ports]\ndefault_capacity = 0\nspare = 1\n[logging]\ndirectory = \"/var/log\"" =
    some { defaultCapacity := 0, logDirectory := some "/var/log" } := by cbv

end Dataflow.Settings
