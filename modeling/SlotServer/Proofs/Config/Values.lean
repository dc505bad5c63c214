import SlotServer.Config.Setting
import SlotServer.Proofs.Text.Integer

/-!
# Values of settings

A setting has values of its own type, and a text stands for at most one of them. Setting a setting
to a text puts the value that the text stands for into the configuration, and changes no other.
-/

namespace SlotServer

namespace Setting

/-- The type of a setting's values. -/
abbrev Value : Setting → Type
  | port => UInt16
  | host | logFilter => String
  | maxConnections | bufferSize => UInt64
  | logFormat => LogFormat

/-- Which texts stand for a value. -/
def Denotes : (setting : Setting) → String → setting.Value → Prop
  | port, text, (value : UInt16) => Text.SignedNumeral text.toList value.toNat
  | host, text, (value : String) | logFilter, text, (value : String) => text = value
  | maxConnections, text, (value : UInt64) | bufferSize, text, (value : UInt64) =>
    Text.UnsignedNumeral text.toList value.toNat ∧ 0 < value.toNat
  | logFormat, text, (value : LogFormat) => text.toList.map Char.toLower = value.name.toList

end Setting

namespace Config

/-- The value of a setting in a configuration. -/
def value (config : Config) : (setting : Setting) → setting.Value
  | .port => config.listen.port
  | .host => config.listen.host
  | .maxConnections => config.maxConnections
  | .bufferSize => config.bufferSize
  | .logFilter => config.logging.filter
  | .logFormat => config.logging.format

/-- The configuration with these values. -/
def ofValues (values : (setting : Setting) → setting.Value) : Config where
  listen := { host := values .host, port := values .port }
  maxConnections := values .maxConnections
  bufferSize := values .bufferSize
  logging := { filter := values .logFilter, format := values .logFormat }

/-- The configuration with another value of one setting. -/
def put (config : Config) (setting : Setting) (value : setting.Value) : Config :=
  ofValues fun other => if h : setting = other then h ▸ value else config.value other

@[simp] theorem value_ofValues (values : (setting : Setting) → setting.Value)
    (setting : Setting) : (ofValues values).value setting = values setting := by
  cases setting <;> rfl

theorem ext_value {config other : Config}
    (h : ∀ setting, config.value setting = other.value setting) : config = other := by
  have heq : config.value = other.value := funext h
  calc
    config = ofValues config.value := rfl
    _ = ofValues other.value := by rw [heq]
    _ = other := rfl

@[simp] theorem value_put_self (config : Config) (setting : Setting) (value : setting.Value) :
    (config.put setting value).value setting = value := by
  simp [put]

theorem value_put_of_ne (config : Config) {setting other : Setting} (h : setting ≠ other)
    (value : setting.Value) : (config.put setting value).value other = config.value other := by
  simp [put, h]

end Config

/-! ## Reading single values -/

theorem readPort_eq_ok_iff (text : String) (port : UInt16) :
    readPort text = .ok port ↔ Text.SignedNumeral text.toList port.toNat := by
  have hport := port.toNat_lt
  have hread : Text.readSigned 0x7FFFFFFFFFFFFFFF text.toList = .ok (port.toNat : Int) ↔
      Text.SignedNumeral text.toList port.toNat :=
    (Text.readSigned_eq_ok_iff _ _ _).trans ⟨fun h => h.1, fun h => ⟨h, by omega, by omega⟩⟩
  rw [← hread, readPort]
  cases Text.readSigned 0x7FFFFFFFFFFFFFFF text.toList with
  | error error => simp
  | ok n =>
      simp only [UInt16.size, Except.ok.injEq]
      split
      · rename_i hn
        rw [Except.ok.injEq, ← UInt16.toNat_inj]
        simp only [Nat.toUInt16_eq, UInt16.toNat_ofNat']
        omega
      · simp only [reduceCtorEq, false_iff]
        omega

theorem readCount_eq_ok_iff (text : String) (count : UInt64) :
    readCount text = .ok count ↔
      Text.UnsignedNumeral text.toList count.toNat ∧ 0 < count.toNat := by
  have hcount := count.toNat_lt
  have hread : Text.readUnsigned 0xFFFFFFFFFFFFFFFF text.toList = .ok count.toNat ↔
      Text.UnsignedNumeral text.toList count.toNat :=
    (Text.readUnsigned_eq_ok_iff _ _ _).trans ⟨fun h => h.1, fun h => ⟨h, by omega⟩⟩
  have hbound : ∀ n, Text.readUnsigned 0xFFFFFFFFFFFFFFFF text.toList = .ok n →
      n ≤ 0xFFFFFFFFFFFFFFFF := fun n h => ((Text.readUnsigned_eq_ok_iff _ _ _).mp h).2
  rw [← hread, readCount]
  cases hresult : Text.readUnsigned 0xFFFFFFFFFFFFFFFF text.toList with
  | error error => simp
  | ok n =>
      have hn := hbound n hresult
      simp only [Except.ok.injEq]
      split
      · simp only [reduceCtorEq, false_iff]
        omega
      · rw [Except.ok.injEq, ← UInt64.toNat_inj]
        simp only [Nat.toUInt64_eq, UInt64.toNat_ofNat']
        omega

theorem readFormat_eq_ok_iff (text : String) (format : LogFormat) :
    readFormat text = .ok format ↔ text.toList.map Char.toLower = format.name.toList := by
  have hnames : LogFormat.json.name.toList ≠ LogFormat.compact.name.toList := by decide
  simp only [readFormat, LogFormat.parse?]
  by_cases hjson : text.toList.map Char.toLower = LogFormat.json.name.toList
  · rw [hjson]
    cases format <;> simp [hnames]
  · by_cases hcompact : text.toList.map Char.toLower = LogFormat.compact.name.toList
    · rw [hcompact]
      cases format <;> simp [hnames.symm]
    · rw [if_neg hjson, if_neg hcompact]
      cases format <;> simp [hjson, hcompact]

/-! ## Setting a setting -/

theorem map_eq_ok_iff {ε α β : Type} {f : α → β} {result : Except ε α} {b : β} :
    result.map f = .ok b ↔ ∃ a, result = .ok a ∧ f a = b := by
  cases result <;> simp [Except.map]

/-- A setting is set to what the text stands for, and not at all if that is no value. -/
theorem Config.set_eq_ok_iff (config : Config) (setting : Setting) (text : String)
    (next : Config) :
    config.set setting text = .ok next ↔
      ∃ value, setting.Denotes text value ∧ config.put setting value = next := by
  cases setting with
  | port => simp only [set, map_eq_ok_iff, readPort_eq_ok_iff]; rfl
  | maxConnections | bufferSize => simp only [set, map_eq_ok_iff, readCount_eq_ok_iff]; rfl
  | logFormat => simp only [set, map_eq_ok_iff, readFormat_eq_ok_iff]; rfl
  | host | logFilter =>
      constructor
      · intro h
        exact ⟨text, rfl, Except.ok.inj h⟩
      · rintro ⟨value, rfl, rfl⟩
        rfl

theorem Setting.Denotes.unique {setting : Setting} {text : String} {value other : setting.Value}
    (h : setting.Denotes text value) (hother : setting.Denotes text other) : value = other := by
  have hset := (Config.default.set_eq_ok_iff setting text _).mpr ⟨value, h, rfl⟩
  rw [(Config.default.set_eq_ok_iff setting text _).mpr ⟨other, hother, rfl⟩] at hset
  have hvalue := congrArg (Config.value · setting) (Except.ok.inj hset)
  simpa using hvalue.symm

theorem Setting.denotes_defaultText (setting : Setting) :
    setting.Denotes setting.defaultText (Config.default.value setting) := by
  obtain ⟨value, hvalue, hput⟩ :=
    (Config.default.set_eq_ok_iff setting _ _).mp setting.set_defaultText
  have heq := congrArg (Config.value · setting) hput
  simp only [Config.value_put_self] at heq
  exact heq ▸ hvalue

end SlotServer
