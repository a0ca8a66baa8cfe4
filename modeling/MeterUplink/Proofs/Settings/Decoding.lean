import MeterUplink.Proofs.Json.Edits
import MeterUplink.Settings.Json

namespace MeterUplink

/-! Settings are recovered from their documents, and from edited ones with the defaults in the
place of what was taken out. Each kind of value has its own law; a section adds to the laws of
its fields only that they are its fields. -/

open Json (Edited Extended Once Completes CompletesMembers)

theorem Json.section?_of_once {names : List String} {members : List (String × Json)}
    (once : Once names members) :
    Json.format.section? names (.object members) = some members := by
  have known : (names.all fun name => (members.filter (·.1 == name)).length ≤ 1) = true := by
    simp only [List.all_eq_true, decide_eq_true_eq]
    exact once
  have entries : Json.format.entries? names (.object members) = some members := rfl
  simp only [Format.section?, entries, Option.bind_eq_bind, Option.bind_some, known, if_true]

/-- A value is read back as it was written. From an edited document it is completed by the
default. -/
structure Recovers {α : Type} (read : Json → Option α) (write : α → Json) (default : α) :
    Prop where
  read_write : ∀ given, read (write given) = some given
  read_edited : ∀ given edited, Edited (write given) edited → ∃ result,
    read edited = some result ∧
      Completes (some edited) (write given) (write default) (write result)

namespace Recovers

variable {α : Type} {read : Json → Option α} {write : α → Json} {default : α}

theorem of_leaf (leaf : ∀ given, (write given).isLeaf = true)
    (read_write : ∀ given, read (write given) = some given) (default : α) :
    Recovers read write default where
  read_write := read_write
  read_edited given edited edit := by
    have single := fun value => Json.isObject_of_isLeaf (leaf value)
    obtain rfl := edit.eq_of_isLeaf (leaf given)
    exact ⟨given, read_write given,
      Json.completes_of_not_isObject (single _) (single _) (single _)⟩

theorem field (recovers : Recovers read write default) {members edited : List (String × Json)}
    (below : ∀ original ∈ members, ∀ left ∈ edited, left.1 = original.1 →
      Edited original.2 left.2)
    (name : String) (given : α) (member : (name, write given) ∈ members) :
    ∃ result, Format.field edited name read default = some result ∧
      Completes (edited.lookup name) (write given) (write default) (write result) := by
  cases found : edited.lookup name with
  | none =>
    exact ⟨default, by simp [Format.field, found], Json.completes_none _ _⟩
  | some value =>
    obtain ⟨result, succeeds, completes⟩ :=
      recovers.read_edited given value (below _ member _ (Json.mem_of_lookup found) rfl)
    exact ⟨result, by simpa [Format.field, found] using succeeds, completes⟩

/-- The value of a field is there, and the reading goes on with the fields behind it. -/
theorem bind_field (recovers : Recovers read write default)
    {members edited : List (String × Json)}
    (below : ∀ original ∈ members, ∀ left ∈ edited, left.1 = original.1 →
      Edited original.2 left.2)
    (name : String) (given : α) (member : (name, write given) ∈ members) {β : Type}
    {rest : α → Option β} {Good : β → Prop}
    (others : ∀ result,
      Completes (edited.lookup name) (write given) (write default) (write result) →
        ∃ value, rest result = some value ∧ Good value) :
    ∃ value, (Format.field edited name read default).bind rest = some value ∧ Good value := by
  obtain ⟨result, succeeds, completes⟩ := recovers.field below name given member
  simpa only [succeeds, Option.bind_some] using others result completes

theorem text (default : String) : Recovers Json.format.text? Json.text default := by
  refine of_leaf ?_ ?_ default <;> intro value <;> rfl

theorem flag (default : Bool) : Recovers Json.format.flag? Json.bool default := by
  refine of_leaf ?_ ?_ default <;> intro value <;> rfl

theorem natural {limit : Nat} {ofNat : Nat → α} {toNat : α → Nat}
    (bounded : ∀ value, toNat value < limit) (ofNat_toNat : ∀ value, ofNat (toNat value) = value)
    (default : α) :
    Recovers (fun written => (Json.format.below limit written).map ofNat)
      (fun value => .integer (toNat value)) default := by
  refine of_leaf (fun _ => rfl) (fun value => ?_) default
  have view : Json.format.natural? (.integer (toNat value)) = some (toNat value) := rfl
  simp [Format.below, view, bounded value, ofNat_toNat value]

theorem byte (default : UInt8) :
    Recovers Json.format.byte? (fun value => .integer value.toNat) default :=
  natural UInt8.toNat_lt_size (fun _ => UInt8.ofNat_toNat) default

theorem word32 (default : UInt32) :
    Recovers Json.format.word32? (fun value => .integer value.toNat) default :=
  natural UInt32.toNat_lt_size (fun _ => UInt32.ofNat_toNat) default

theorem word64 (default : UInt64) :
    Recovers Json.format.word64? (fun value => .integer value.toNat) default :=
  natural UInt64.toNat_lt_size (fun _ => UInt64.ofNat_toNat) default

/-- One of several alternatives, written as its name. -/
theorem choice {name : α → String} {ofName? : String → Option α}
    (ofName?_name : ∀ value, ofName? (name value) = some value) (default : α) :
    Recovers (fun written => (Json.format.choice? written).bind ofName?)
      (fun value => .text (name value)) default :=
  of_leaf (fun _ => rfl) ofName?_name default

end Recovers

theorem Json.choice?_text (name : String) : Json.format.choice? (.text name) = some name := rfl

theorem Parity.ofName?_name (parity : Parity) : ofName? parity.name = some parity := by
  cases parity <;> decide

theorem FlowControl.ofName?_name (control : FlowControl) :
    ofName? control.name = some control := by
  cases control <;> decide

theorem MaskPolicy.ofName?_name (policy : MaskPolicy) : ofName? policy.name = some policy := by
  cases policy <;> decide

theorem Register.ofName?_name (register : Register) :
    ofName? register.name = some register := by
  cases register <;> decide

-- In each section below the fields are read one after the other. What `below` and a field's own
-- law say about one of them does not depend on those that were read before.

theorem WidthSettings.recovers : Recovers (read? Json.format) toJson {} where
  read_write widths := by
    have entries : Json.format.section? keys widths.toJson = some _ := rfl
    simp [read?, entries, Format.field, List.lookup_cons, (Recovers.word32 0).read_write]
  read_edited widths value edit := by
    obtain ⟨edited, rfl, (once : Once keys edited), below⟩ := edit.of_object
    simp only [read?, Json.section?_of_once once, Option.bind_eq_bind, Option.bind_some]
    refine (Recovers.word32 _).bind_field below "energy" widths.energy (by simp)
      fun energy energyCompletes => ?_
    refine (Recovers.word32 _).bind_field below "instantaneous" widths.instantaneous (by simp)
      fun instantaneous instantaneousCompletes => ?_
    refine (Recovers.word32 _).bind_field below "scale" widths.scale (by simp)
      fun scale scaleCompletes => ?_
    exact ⟨_, rfl, (CompletesMembers.cons energyCompletes (.cons instantaneousCompletes
      (.cons scaleCompletes .nil))).object⟩

theorem EncryptionSettings.recovers : Recovers (read? Json.format) toJson {} where
  read_write encryption := by
    have entries : Json.format.section? keys encryption.toJson = some _ := rfl
    simp [read?, entries, Format.field, List.lookup_cons, (Recovers.flag false).read_write,
      (Recovers.text "").read_write]
  read_edited encryption value edit := by
    obtain ⟨edited, rfl, (once : Once keys edited), below⟩ := edit.of_object
    simp only [read?, Json.section?_of_once once, Option.bind_eq_bind, Option.bind_some]
    refine (Recovers.flag _).bind_field below "enabled" encryption.enabled (by simp)
      fun enabled enabledCompletes => ?_
    refine (Recovers.text _).bind_field below "key" encryption.key (by simp)
      fun key keyCompletes => ?_
    refine (Recovers.text _).bind_field below "iv" encryption.iv (by simp) fun iv ivCompletes => ?_
    exact ⟨_, rfl, (CompletesMembers.cons enabledCompletes (.cons keyCompletes
      (.cons ivCompletes .nil))).object⟩

theorem SerialSettings.recovers : Recovers (read? Json.format) toJson {} where
  read_write serial := by
    have entries : Json.format.section? keys serial.toJson = some _ := rfl
    simp [read?, entries, Format.field, List.lookup_cons, (Recovers.text "").read_write,
      (Recovers.word32 0).read_write, (Recovers.byte 0).read_write, Json.choice?_text,
      Parity.ofName?_name, FlowControl.ofName?_name, (Recovers.word64 0).read_write]
  read_edited serial value edit := by
    obtain ⟨edited, rfl, (once : Once keys edited), below⟩ := edit.of_object
    simp only [read?, Json.section?_of_once once, Option.bind_eq_bind, Option.bind_some]
    refine (Recovers.text _).bind_field below "port" serial.port (by simp)
      fun port portCompletes => ?_
    refine (Recovers.word32 _).bind_field below "baud_rate" serial.baudRate (by simp)
      fun baudRate baudRateCompletes => ?_
    refine (Recovers.byte _).bind_field below "data_bits" serial.dataBits (by simp)
      fun dataBits dataBitsCompletes => ?_
    refine (Recovers.choice Parity.ofName?_name _).bind_field below "parity"
      serial.parity (by simp) fun parity parityCompletes => ?_
    refine (Recovers.byte _).bind_field below "stop_bits" serial.stopBits (by simp)
      fun stopBits stopBitsCompletes => ?_
    refine (Recovers.choice FlowControl.ofName?_name _).bind_field below "flow_control"
      serial.flowControl (by simp) fun flowControl flowControlCompletes => ?_
    refine (Recovers.word64 _).bind_field below "timeout_ms" serial.timeoutMs (by simp)
      fun timeoutMs timeoutMsCompletes => ?_
    refine (Recovers.word64 _).bind_field below "write_timeout_ms" serial.writeTimeoutMs (by simp)
      fun writeTimeoutMs writeTimeoutMsCompletes => ?_
    exact ⟨_, rfl, (CompletesMembers.cons portCompletes (.cons baudRateCompletes
      (.cons dataBitsCompletes (.cons parityCompletes (.cons stopBitsCompletes
      (.cons flowControlCompletes (.cons timeoutMsCompletes
      (.cons writeTimeoutMsCompletes .nil)))))))).object⟩

theorem TransportSettings.recovers : Recovers (read? Json.format) toJson {} where
  read_write transport := by
    have entries : Json.format.section? keys transport.toJson = some _ := rfl
    simp [read?, entries, Format.field, List.lookup_cons, (Recovers.text "").read_write,
      (Recovers.word64 0).read_write]
  read_edited transport value edit := by
    obtain ⟨edited, rfl, (once : Once keys edited), below⟩ := edit.of_object
    simp only [read?, Json.section?_of_once once, Option.bind_eq_bind, Option.bind_some]
    refine (Recovers.text _).bind_field below "terminator" transport.terminator (by simp)
      fun terminator terminatorCompletes => ?_
    refine (Recovers.word64 _).bind_field below "command_delay_ms"
      transport.commandDelayMs (by simp) fun commandDelayMs commandDelayMsCompletes => ?_
    refine (Recovers.word64 _).bind_field below "frame_delay_ms" transport.frameDelayMs (by simp)
      fun frameDelayMs frameDelayMsCompletes => ?_
    refine (Recovers.word64 _).bind_field below "pause_every" transport.pauseEvery (by simp)
      fun pauseEvery pauseEveryCompletes => ?_
    refine (Recovers.word64 _).bind_field below "pause_delay_ms" transport.pauseDelayMs (by simp)
      fun pauseDelayMs pauseDelayMsCompletes => ?_
    exact ⟨_, rfl, (CompletesMembers.cons terminatorCompletes (.cons commandDelayMsCompletes
      (.cons frameDelayMsCompletes (.cons pauseEveryCompletes
      (.cons pauseDelayMsCompletes .nil))))).object⟩

theorem PayloadSettings.recovers : Recovers (read? Json.format) toJson {} where
  read_write payload := by
    have entries : Json.format.section? keys payload.toJson = some _ := rfl
    simp [read?, entries, Format.field, List.lookup_cons, Json.choice?_text,
      MaskPolicy.ofName?_name, WidthSettings.recovers.read_write, (Recovers.word64 0).read_write,
      (Recovers.text "").read_write, EncryptionSettings.recovers.read_write]
  read_edited payload value edit := by
    obtain ⟨edited, rfl, (once : Once keys edited), below⟩ := edit.of_object
    simp only [read?, Json.section?_of_once once, Option.bind_eq_bind, Option.bind_some]
    refine (Recovers.choice MaskPolicy.ofName?_name _).bind_field below "masking"
      payload.masking (by simp) fun masking maskingCompletes => ?_
    refine WidthSettings.recovers.bind_field below "mask_widths" payload.maskWidths (by simp)
      fun maskWidths maskWidthsCompletes => ?_
    refine (Recovers.word64 _).bind_field below "timestamp_truncate"
      payload.timestampTruncate (by simp) fun timestampTruncate timestampTruncateCompletes => ?_
    refine (Recovers.text _).bind_field below "timestamp_separators"
      payload.timestampSeparators (by simp)
      fun timestampSeparators timestampSeparatorsCompletes => ?_
    refine (Recovers.word64 _).bind_field below "chunk_length" payload.chunkLength (by simp)
      fun chunkLength chunkLengthCompletes => ?_
    refine EncryptionSettings.recovers.bind_field below "encryption" payload.encryption (by simp)
      fun encryption encryptionCompletes => ?_
    exact ⟨_, rfl, (CompletesMembers.cons maskingCompletes (.cons maskWidthsCompletes
      (.cons timestampTruncateCompletes (.cons timestampSeparatorsCompletes
      (.cons chunkLengthCompletes (.cons encryptionCompletes .nil)))))).object⟩

namespace Definition

theorem read?_of_extended (definition : Definition) {value : Json}
    (extended : Extended definition.toJson value) : read? Json.format value = some definition := by
  obtain ⟨edited, rfl, (once : Once keys edited), kept⟩ := extended.of_object
  have marker : edited.lookup "marker" = some (.text definition.marker) :=
    once.lookup (by simp [keys]) (kept (by simp))
  have register : edited.lookup "register" = some (.text definition.register.name) :=
    once.lookup (by simp [keys]) (kept (by simp))
  simp [read?, Json.section?_of_once once, Format.required, marker, register,
    (Recovers.text "").read_write, Json.choice?_text, Register.ofName?_name]

theorem extended_self (definition : Definition) :
    Extended definition.toJson definition.toJson :=
  .object (by simp [Once]) (List.Subset.refl _)

theorem readAll?_of_extended {definitions : List Definition} {items : List Json}
    (extended : List.Forall₂ Extended (definitions.map toJson) items) :
    readAll? Json.format (.list items) = some definitions := by
  show items.mapM (read? Json.format) = some definitions
  induction definitions generalizing items with
  | nil =>
    cases extended
    rfl
  | cons definition rest ih =>
    cases extended with
    | cons first others =>
      simp [List.mapM_cons, read?_of_extended definition first, ih others]

/-- A list of definitions is either there as a whole or not at all. -/
theorem recovers (default : List Definition) :
    Recovers (readAll? Json.format) (fun definitions => .list (definitions.map toJson))
      default where
  read_write definitions :=
    readAll?_of_extended (List.forall₂_map_right_iff.mpr (List.forall₂_map_left_iff.mpr
      (List.forall₂_same.mpr fun definition _ => extended_self definition)))
  read_edited definitions value edit := by
    cases edit with
    | leaf _ leaf => cases leaf
    | list extended =>
      exact ⟨definitions, readAll?_of_extended extended,
        Json.completes_of_not_isObject rfl rfl rfl⟩

end Definition

theorem Settings.recovers : Recovers (read? Json.format) toJson {} where
  read_write settings := by
    have entries : Json.format.section? keys settings.toJson = some _ := rfl
    simp [read?, entries, Format.field, List.lookup_cons, (Recovers.text "").read_write,
      SerialSettings.recovers.read_write, TransportSettings.recovers.read_write,
      PayloadSettings.recovers.read_write, (Definition.recovers []).read_write]
  read_edited settings value edit := by
    obtain ⟨edited, rfl, (once : Once keys edited), below⟩ := edit.of_object
    simp only [read?, Json.section?_of_once once, Option.bind_eq_bind, Option.bind_some]
    refine (Recovers.text _).bind_field below "log_file" settings.logFile (by simp)
      fun logFile logFileCompletes => ?_
    refine SerialSettings.recovers.bind_field below "serial" settings.serial (by simp)
      fun serial serialCompletes => ?_
    refine TransportSettings.recovers.bind_field below "transport" settings.transport (by simp)
      fun transport transportCompletes => ?_
    refine PayloadSettings.recovers.bind_field below "payload" settings.payload (by simp)
      fun payload payloadCompletes => ?_
    refine (Definition.recovers _).bind_field below "registers" settings.registers (by simp)
      fun registers registersCompletes => ?_
    exact ⟨_, rfl, (CompletesMembers.cons logFileCompletes (.cons serialCompletes
      (.cons transportCompletes (.cons payloadCompletes
        (.cons registersCompletes .nil))))).object⟩

/-- Decoding undoes encoding, and whatever is taken out of a document, at whatever level, is
completed by its default and by nothing else. -/
theorem Settings.read?_of_edited (settings : Settings) :
    read? Json.format settings.toJson = some settings ∧
      ∀ json, Edited settings.toJson json → ∃ result, read? Json.format json = some result ∧
        ∀ path, result.toJson.value? path =
          if (json.value? path).isSome then settings.toJson.value? path
          else ({} : Settings).toJson.value? path :=
  ⟨recovers.read_write settings, recovers.read_edited settings⟩

def Settings.beforeTrimming : Settings where
  logFile := "meter.txt"
  serial := { port := "COM3", parity := .even }
  transport := { pauseEvery := 0 }
  payload := { maskWidths := { energy := 24 }, encryption := { enabled := true, key := "00" } }
  registers := [⟨"1.8.0", .activeEnergyImported⟩]

/-- Nothing is left of the transport and of the widths, one key of the serial settings and one of
the encryption. -/
def Settings.trimmedDocument : Json :=
  .object [("version", .integer 2),
    ("payload", .object [("mask_widths", .object []),
      ("encryption", .object [("key", .text "00"), ("cipher", .text "AES")])]),
    ("registers", .list [.object [("marker", .text "1.8.0"), ("unit", .text "kWh"),
      ("register", .text "active_energy_imported")]]),
    ("serial", .object [("port", .text "COM3"), ("owner", .null), ("owner", .null)])]

theorem Settings.edited_trimmedDocument : Edited beforeTrimming.toJson trimmedDocument := by
  have widths : Edited beforeTrimming.payload.maskWidths.toJson (.object []) :=
    .object (by simp [Once]) (by simp)
  have encryption : Edited beforeTrimming.payload.encryption.toJson
      (.object [("key", .text "00"), ("cipher", .text "AES")]) := by
    refine .object (by simp [Once]) ?_
    simpa using .leaf _ rfl
  have payload : Edited beforeTrimming.payload.toJson
      (.object [("mask_widths", .object []),
        ("encryption", .object [("key", .text "00"), ("cipher", .text "AES")])]) := by
    refine .object (by simp [Once]) ?_
    simpa using ⟨widths, encryption⟩
  have registers : Edited (.list (beforeTrimming.registers.map Definition.toJson))
      (.list [.object [("marker", .text "1.8.0"), ("unit", .text "kWh"),
        ("register", .text "active_energy_imported")]]) :=
    .list (.cons (.object (by simp [Once]) (by simp [Register.name])) .nil)
  have serial : Edited beforeTrimming.serial.toJson
      (.object [("port", .text "COM3"), ("owner", .null), ("owner", .null)]) := by
    refine .object (by simp [Once]) ?_
    simpa using .leaf _ rfl
  refine .object (by simp [Once]) ?_
  simpa using ⟨serial, payload, registers⟩

theorem Settings.read?_of_trimmedDocument :
    Edited beforeTrimming.toJson trimmedDocument ∧
      ∃ result, read? Json.format trimmedDocument = some result ∧
        ∀ path, result.toJson.value? path =
          if (trimmedDocument.value? path).isSome then beforeTrimming.toJson.value? path
          else ({} : Settings).toJson.value? path :=
  ⟨edited_trimmedDocument,
    (read?_of_edited beforeTrimming).2 trimmedDocument edited_trimmedDocument⟩

end MeterUplink
