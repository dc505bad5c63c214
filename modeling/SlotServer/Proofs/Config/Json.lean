import SlotServer.Config.Json
import SlotServer.Proofs.Json.Records

/-!
# Settings survive JSON

The fields of listen addresses, log settings and configurations, and how drafts keep track of them.
What is written is a text of what it was written from, every such text is read as that, and a text
that has not each field once is rejected for its shape.
-/

namespace SlotServer

open JsonText

namespace JsonText

section Member

variable {δ α β : Type} {get : δ → Option β} {set : δ → β → δ} {reader : Reader β}

theorem jsonMember_gives {text : List Char} {result : Except Error β}
    (h : Reads reader text result) (name : String) :
    (jsonMember name get set reader).Gives text
      (result.map fun value draft => set draft value) := by
  intro draft space rest hspace hrest
  change (reader (space ++ (text ++ rest))).map _ = _
  rw [h space rest hspace hrest]
  cases result <;> rfl

/-- A member fits a field if its reader reads the texts of the field and its drafts take the
value. -/
theorem jsonMember_fits {shape : Shape δ α} {agrees : α → δ → Prop} {field : RecordField α}
    {name : String} (hname : field.name = name) (value : α → β)
    (hreads : ∀ a text, field.Text a text → Reads reader text (.ok (value a)))
    (hsets : ∀ b, shape.Sets name (set · b))
    (hagrees : ∀ a draft, agrees a draft → agrees a (set draft (value a)))
    (hrejects : ∀ text, field.Bad text →
      ∃ error : Error, error.category = .shape ∧ Reads reader text (.error error)) :
    (jsonMember name get set reader).Fits shape agrees field where
  name_eq := hname
  reads a _ htext := ⟨_, jsonMember_gives (hreads a _ htext) name, hsets (value a), hagrees a⟩
  rejects _ htext := by
    obtain ⟨error, hshape, hreads⟩ := hrejects _ htext
    exact ⟨error, hshape, jsonMember_gives hreads name⟩

end Member

end JsonText

theorem portReader_reads {port : UInt16} {text : List Char} (h : NaturalText port.toNat text) :
    Reads portReader text (.ok port) := by
  intro space rest hspace hrest
  rw [portReader, naturalReader_reads h port.toNat_lt (by decide) _ space rest hspace hrest]
  simp [Except.map]

theorem countReader_reads {count : UInt64} {text : List Char} (h : NaturalText count.toNat text) :
    Reads countReader text (.ok count) := by
  intro space rest hspace hrest
  rw [countReader, naturalReader_reads h count.toNat_lt (by decide) _ space rest hspace hrest]
  simp [Except.map]

theorem formatReader_reads {format : LogFormat} {text : List Char}
    (h : StringText format.name text) : Reads LogFormat.jsonReader text (.ok format) := by
  have hnamed : LogFormat.named? format.name = some format := by cases format <;> rfl
  exact nameReader_reads hnamed h _

/-! ## Listen addresses -/

namespace ListenAddress

/-- The fields of a listen address. -/
def fields : List (RecordField ListenAddress) :=
  [⟨"host", fun address => StringText address.host, fun _ => False⟩,
   ⟨"port", fun address => NaturalText address.port.toNat, fun _ => False⟩]

/-- Whether what a draft has is that of a listen address. -/
structure Draft.Agrees (address : ListenAddress) (draft : Draft) : Prop where
  host : ∀ host ∈ draft.host, host = address.host
  port : ∀ port ∈ draft.port, port = address.port

theorem member_fits {m : Member Draft} (hm : m ∈ shape.members) :
    ∃ field ∈ fields, m.Fits shape Draft.Agrees field := by
  simp only [shape, List.mem_cons, List.not_mem_nil, or_false] at hm
  rcases hm with rfl | rfl
  · refine ⟨_, .head _, jsonMember_fits rfl ListenAddress.host ?_ ?_ ?_ nofun⟩
    · exact fun _ _ h => stringReader_reads h _
    · exact fun _ _ => by simp [shape, jsonMember]
    · exact fun _ _ h => { h with host := by simp }
  · refine ⟨_, .tail _ (.head _), jsonMember_fits rfl ListenAddress.port ?_ ?_ ?_ nofun⟩
    · exact fun _ _ h => portReader_reads h
    · exact fun _ _ => by simp [shape, jsonMember]
    · exact fun _ _ h => { h with port := by simp }

theorem shape_fits : shape.Fits Draft.Agrees fields where
  names_eq := rfl
  nodup := by decide
  members _ := member_fits
  blank := by simp [shape, jsonMember]
  agrees_blank _ := ⟨nofun, nofun⟩
  finish address draft hagrees hset := by
    obtain ⟨host, port⟩ := draft
    simp only [shape, jsonMember, List.forall_mem_cons, Option.isSome_iff_exists] at hset
    obtain ⟨⟨host, rfl⟩, ⟨port, rfl⟩, -⟩ := hset
    obtain rfl := hagrees.host host rfl
    obtain rfl := hagrees.port port rfl
    rfl
  missing draft m hm hunset := by
    obtain ⟨_ | host, _ | port⟩ := draft
    · exact ⟨"host", rfl⟩
    · exact ⟨"host", rfl⟩
    · exact ⟨"port", rfl⟩
    · simp only [shape, List.mem_cons, List.not_mem_nil, or_false] at hm
      rcases hm with rfl | rfl <;> cases hunset

theorem recordText_toJson (address : ListenAddress) :
    RecordText fields address address.toJson.toList :=
  recordText_writtenObject
    (.cons ⟨rfl, stringText_writtenString _⟩ (.cons ⟨rfl, naturalText_toString _⟩ .nil))
    (by decide)

end ListenAddress

/-! ## Log settings -/

namespace LogSettings

/-- The fields of log settings. -/
def fields : List (RecordField LogSettings) :=
  [⟨"filter", fun settings => StringText settings.filter, fun _ => False⟩,
   ⟨"format", fun settings => StringText settings.format.name, fun _ => False⟩]

/-- Whether what a draft has is that of log settings. -/
structure Draft.Agrees (settings : LogSettings) (draft : Draft) : Prop where
  filter : ∀ filter ∈ draft.filter, filter = settings.filter
  format : ∀ format ∈ draft.format, format = settings.format

theorem member_fits {m : Member Draft} (hm : m ∈ shape.members) :
    ∃ field ∈ fields, m.Fits shape Draft.Agrees field := by
  simp only [shape, List.mem_cons, List.not_mem_nil, or_false] at hm
  rcases hm with rfl | rfl
  · refine ⟨_, .head _, jsonMember_fits rfl LogSettings.filter ?_ ?_ ?_ nofun⟩
    · exact fun _ _ h => stringReader_reads h _
    · exact fun _ _ => by simp [shape, jsonMember]
    · exact fun _ _ h => { h with filter := by simp }
  · refine ⟨_, .tail _ (.head _), jsonMember_fits rfl LogSettings.format ?_ ?_ ?_ nofun⟩
    · exact fun _ _ h => formatReader_reads h
    · exact fun _ _ => by simp [shape, jsonMember]
    · exact fun _ _ h => { h with format := by simp }

theorem shape_fits : shape.Fits Draft.Agrees fields where
  names_eq := rfl
  nodup := by decide
  members _ := member_fits
  blank := by simp [shape, jsonMember]
  agrees_blank _ := ⟨nofun, nofun⟩
  finish settings draft hagrees hset := by
    obtain ⟨filter, format⟩ := draft
    simp only [shape, jsonMember, List.forall_mem_cons, Option.isSome_iff_exists] at hset
    obtain ⟨⟨filter, rfl⟩, ⟨format, rfl⟩, -⟩ := hset
    obtain rfl := hagrees.filter filter rfl
    obtain rfl := hagrees.format format rfl
    rfl
  missing draft m hm hunset := by
    obtain ⟨_ | filter, _ | format⟩ := draft
    · exact ⟨"filter", rfl⟩
    · exact ⟨"filter", rfl⟩
    · exact ⟨"format", rfl⟩
    · simp only [shape, List.mem_cons, List.not_mem_nil, or_false] at hm
      rcases hm with rfl | rfl <;> cases hunset

theorem recordText_toJson (settings : LogSettings) :
    RecordText fields settings settings.toJson.toList :=
  recordText_writtenObject
    (.cons ⟨rfl, stringText_writtenString _⟩ (.cons ⟨rfl, stringText_writtenString _⟩ .nil))
    (by decide)

end LogSettings

/-! ## Configurations -/

namespace Config

/-- The fields of a configuration. -/
def fields : List (RecordField Config) :=
  [⟨"listen", fun config => RecordText ListenAddress.fields config.listen,
      Malformed ListenAddress.fields⟩,
   ⟨"max_connections", fun config => NaturalText config.maxConnections.toNat, fun _ => False⟩,
   ⟨"buffer_size", fun config => NaturalText config.bufferSize.toNat, fun _ => False⟩,
   ⟨"logging", fun config => RecordText LogSettings.fields config.logging,
      Malformed LogSettings.fields⟩]

/-- Whether what a draft has is that of a configuration. -/
structure Draft.Agrees (config : Config) (draft : Draft) : Prop where
  listen : ∀ listen ∈ draft.listen, listen = config.listen
  maxConnections : ∀ count ∈ draft.maxConnections, count = config.maxConnections
  bufferSize : ∀ count ∈ draft.bufferSize, count = config.bufferSize
  logging : ∀ logging ∈ draft.logging, logging = config.logging

theorem member_fits {m : Member Draft} (hm : m ∈ shape.members) :
    ∃ field ∈ fields, m.Fits shape Draft.Agrees field := by
  simp only [shape, List.mem_cons, List.not_mem_nil, or_false] at hm
  rcases hm with rfl | rfl | rfl | rfl
  · refine ⟨_, .head _, jsonMember_fits rfl Config.listen ?_ ?_ ?_ ?_⟩
    · exact fun _ _ h => ListenAddress.shape_fits.reads_record h
    · exact fun _ _ => by simp [shape, jsonMember]
    · exact fun _ _ h => { h with listen := by simp }
    · exact fun _ h => ListenAddress.shape_fits.reads_malformed h
  · refine ⟨_, .tail _ (.head _), jsonMember_fits rfl Config.maxConnections ?_ ?_ ?_ nofun⟩
    · exact fun _ _ h => countReader_reads h
    · exact fun _ _ => by simp [shape, jsonMember]
    · exact fun _ _ h => { h with maxConnections := by simp }
  · refine ⟨_, .tail _ (.tail _ (.head _)), jsonMember_fits rfl Config.bufferSize ?_ ?_ ?_ nofun⟩
    · exact fun _ _ h => countReader_reads h
    · exact fun _ _ => by simp [shape, jsonMember]
    · exact fun _ _ h => { h with bufferSize := by simp }
  · refine ⟨_, .tail _ (.tail _ (.tail _ (.head _))),
      jsonMember_fits rfl Config.logging ?_ ?_ ?_ ?_⟩
    · exact fun _ _ h => LogSettings.shape_fits.reads_record h
    · exact fun _ _ => by simp [shape, jsonMember]
    · exact fun _ _ h => { h with logging := by simp }
    · exact fun _ h => LogSettings.shape_fits.reads_malformed h

/-- Drafts that have all members are finished. -/
theorem shape_finish {config : Config} {draft : Draft} (hagrees : draft.Agrees config)
    (hset : ∀ m ∈ shape.members, m.isSet draft = true) : shape.finish draft = .ok config := by
  obtain ⟨listen, maxConnections, bufferSize, logging⟩ := draft
  simp only [shape, jsonMember, List.forall_mem_cons, Option.isSome_iff_exists] at hset
  obtain ⟨⟨listen, rfl⟩, ⟨maxConnections, rfl⟩, ⟨bufferSize, rfl⟩, ⟨logging, rfl⟩, -⟩ := hset
  obtain rfl := hagrees.listen listen rfl
  obtain rfl := hagrees.maxConnections maxConnections rfl
  obtain rfl := hagrees.bufferSize bufferSize rfl
  obtain rfl := hagrees.logging logging rfl
  rfl

/-- Drafts that lack a member are not. -/
theorem shape_missing {draft : Draft} {m : Member Draft} (hm : m ∈ shape.members)
    (hunset : m.isSet draft = false) :
    ∃ name, shape.finish draft = .error (.missingField name) := by
  obtain ⟨listen, maxConnections, bufferSize, logging⟩ := draft
  cases listen with
  | none => exact ⟨"listen", rfl⟩
  | some listen =>
    cases maxConnections with
    | none => exact ⟨"max_connections", rfl⟩
    | some maxConnections =>
      cases bufferSize with
      | none => exact ⟨"buffer_size", rfl⟩
      | some bufferSize =>
        cases logging with
        | none => exact ⟨"logging", rfl⟩
        | some logging =>
          simp only [shape, List.mem_cons, List.not_mem_nil, or_false] at hm
          rcases hm with rfl | rfl | rfl | rfl <;> cases hunset

theorem shape_fits : shape.Fits Draft.Agrees fields where
  names_eq := rfl
  nodup := by decide
  members _ := member_fits
  blank := by simp [shape, jsonMember]
  agrees_blank _ := ⟨nofun, nofun, nofun, nofun⟩
  finish _ _ := shape_finish
  missing _ _ := shape_missing

theorem recordText_toJson (config : Config) : RecordText fields config config.toJson.toList :=
  recordText_writtenObject
    (.cons ⟨rfl, config.listen.recordText_toJson⟩ (.cons ⟨rfl, naturalText_toString _⟩
      (.cons ⟨rfl, naturalText_toString _⟩ (.cons ⟨rfl, config.logging.recordText_toJson⟩ .nil))))
    (by decide)

/-- Configurations survive JSON, and so do the records inside them on their own. -/
theorem json_survives :
    Survives Config.toJson Config.ofJson Config.fields ∧
      Survives ListenAddress.toJson ListenAddress.ofJson ListenAddress.fields ∧
      Survives LogSettings.toJson LogSettings.ofJson LogSettings.fields :=
  ⟨survives_of_fits shape_fits recordText_toJson,
    survives_of_fits ListenAddress.shape_fits ListenAddress.recordText_toJson,
    survives_of_fits LogSettings.shape_fits LogSettings.recordText_toJson⟩

end Config

end SlotServer
