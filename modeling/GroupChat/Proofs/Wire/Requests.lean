import GroupChat.Proofs.Hub.Handle
import GroupChat.Proofs.Json.Spelling
import GroupChat.Wire.ClientEvent

/-!
# What clients may write

A client that asks for something writes an envelope, with the data of what it asks for. It may spell
both in any way: as objects, where the members stand in any order among others, or as lists. The
envelope is read first and takes any data. Only then its kind says which record the data are, so the
data are spelled with sorted members by then.

## Main definitions

- `ClientEvent.Spells`: the data of an event in any spelling.
- `Encloses`: the envelopes with given data in any spelling.

## Main statements

- `Envelope.parse_of_encloses`: an envelope in any spelling is read.
- `ClientEvent.decode_of_spells`: data in any spelling are decoded.
- `ClientEvent.decodes_spelled`: a client gets what it asks for, however it spells that, and what it
  gets is of the kind it has named.
-/

namespace GroupChat

open Json Wire

/-! ### The records of requests -/

namespace Wire

open Shape

theorem plain_typingRecord : typingRecord.Plain 1 where
  fields := ⟨⟨plain_optional plain_text fun _ => nofun, fun _ => rfl⟩,
    ⟨plain_optional plain_text fun _ => nofun, fun _ => rfl⟩, trivial⟩
  names := by decide
  build _ := rfl

theorem plain_chatRecord : chatRecord.Plain 1 where
  fields := ⟨⟨plain_optional plain_text fun _ => nofun, fun _ => rfl⟩,
    ⟨plain_optional plain_text fun _ => nofun, fun _ => rfl⟩, ⟨plain_text, fun _ => rfl⟩, trivial⟩
  names := by decide
  build _ := rfl

theorem plain_createRecord : createRecord.Plain 1 where
  fields := ⟨⟨plain_optional plain_text fun _ => nofun, fun _ => rfl⟩, ⟨plain_text, fun _ => rfl⟩,
    ⟨plain_flag, fun _ => rfl⟩, ⟨plain_flag, fun _ => rfl⟩, ⟨plain_list plain_text, fun _ => rfl⟩,
    trivial⟩
  names := by decide
  build _ := rfl

theorem plain_roomRequestRecord : roomRequestRecord.Plain 1 where
  fields := ⟨⟨plain_text, fun _ => rfl⟩, trivial⟩
  names := by decide
  build _ := rfl

theorem plain_membersRecord : membersRecord.Plain 1 where
  fields := ⟨⟨plain_text, fun _ => rfl⟩, ⟨plain_list plain_text, fun _ => rfl⟩, trivial⟩
  names := by decide
  build _ := rfl

theorem plain_searchRecord : searchRecord.Plain 1 where
  fields := ⟨⟨plain_text, fun _ => rfl⟩, trivial⟩
  names := by decide
  build _ := rfl

theorem plain_rangeRecord : rangeRecord.Plain 1 where
  fields := ⟨⟨plain_text, fun _ => rfl⟩, ⟨plain_int64, fun _ => rfl⟩,
    ⟨plain_optional plain_int64 fun _ => nofun, fun _ => rfl⟩, trivial⟩
  names := by decide
  build _ := rfl

end Wire

/-! ### Envelopes -/

/-- The envelopes of this `kind` with the given `data`, which may be missing. -/
inductive Encloses (kind : String) (data : Option Json) : Json → Prop where
  /-- As an object, with any other members. -/
  | object {ms : List (String × Json)} (type : named "type" ms = [("type", .text kind)])
      (content : named "data" ms = data.toList.map fun d => ("data", d)) :
      Encloses kind data (.object ms)
  /-- As a list. -/
  | list : Encloses kind data (.list (.text kind :: data.toList))

namespace Envelope

variable {kind : String} {data : Option Json} {v w : Json} {ms : List (String × Json)} {n : Nat}
  {text : String}

theorem among_eq_named {α : Type} {f : Member α} (h : f.aliases = []) (ms : List (String × Json)) :
    f.among ms = named f.name ms := by
  refine List.filter_congr fun m _ => ?_
  rw [Member.answersTo, h, List.contains_nil, Bool.or_false, beq_eq_decide]
  exact decide_eq_decide.2 eq_comm

/-- `envelopeRecord` gathers its fields from members in any order, as long as its own names are
there once. -/
theorem gather_of_named (hv : Within n (data.getD .null))
    (htype : named "type" ms = [("type", .text kind)])
    (hdata : named "data" ms = data.toList.map fun d => ("data", d)) :
    envelopeRecord.fields.Gather (reading n) ms (kind, (data.getD .null).canonical, ()) := by
  refine ⟨.given ((among_eq_named rfl ms).trans htype) (Shape.reads_text n kind), ?_, trivial⟩
  have hamong := (among_eq_named (f := defaulted "data" Shape.any .null) rfl ms).trans hdata
  cases data with
  | none => exact .missing hamong rfl
  | some d => exact .given hamong (Shape.reads_any hv)

/-- `envelopeRecord` in line is the kind, and then the data if there are any. -/
theorem line_of_toList (hv : Within n (data.getD .null)) (kind : String) :
    envelopeRecord.fields.Line (reading n) (kind, (data.getD .null).canonical, ())
      (.text kind :: data.toList) := by
  refine ⟨Shape.reads_text n kind, ?_⟩
  cases data with
  | none => exact ⟨rfl, rfl⟩
  | some d => exact ⟨Shape.reads_any hv, rfl⟩

/-- `Envelope.parse` reads any spelling of an envelope, and sorts the members of its data. -/
theorem parse_of_encloses (h : Encloses kind data w)
    (hdata : Within (nestingLimit - 1) (data.getD .null)) (htext : IsText w text) :
    parse text = .ok ⟨kind, (data.getD .null).canonical⟩ := by
  have hreads : envelopeRecord.shape.Reads nestingLimit w ⟨kind, (data.getD .null).canonical⟩ := by
    cases h with
    | object type content =>
      exact Record.reads_object (by decide) (gather_of_named hdata type content)
    | list => exact Record.reads_list rfl (line_of_toList hdata kind)
  rw [parse, Shape.decode_of_reads hreads htext]
  rfl

end Envelope

/-! ### Events -/

namespace ClientEvent

variable {data : Option Json} {v w : Json} {text : String}

/-- The data of an event in any spelling (`Record.Spells`). The list of one's rooms is asked for
with any data. -/
def Spells : ClientEvent → Json → Prop
  | typing r => typingRecord.Spells r
  | chat r => chatRecord.Spells r
  | createRoom r => createRecord.Spells r
  | joinRoom r | leaveRoom r => roomRequestRecord.Spells r
  | inviteRoom r | kickRoom r => membersRecord.Spells r
  | getUsers r => searchRecord.Spells r
  | getChats r | getNotifications r => rangeRecord.Spells r
  | userRooms => fun _ => True

/-- `request` reads whatever spells a request. -/
theorem request_of_spells {β : Type} {r : Record β} {b : β} (hplain : r.Plain 1)
    (hpositional : r.positional = true) (h : r.Spells b v) (kind : String) :
    request r ⟨kind, v.canonical⟩ = .ok b := by
  have hreads := (h.canonical hplain).reads hplain hpositional (Nat.le_refl 1)
  rw [request, Shape.ofValue_of_reads hreads]
  rfl

/-- `ClientEvent.decode` of any spelling of the data. -/
theorem decode_of_spells {m : ClientEvent} (h : m.Spells v) :
    decode ⟨m.kind, v.canonical⟩ = .ok m := by
  have hrequest : ∀ {β : Type} {r : Record β} {b : β} (f : β → ClientEvent), r.Plain 1 →
      r.positional = true → r.Spells b v → ∀ kind, f <$> request r ⟨kind, v.canonical⟩ =
        .ok (f b) := by
    intro β r b f hplain hpositional hspells kind
    rw [request_of_spells hplain hpositional hspells]
    rfl
  -- each kind is a text at hand, for which the choice of the record can be computed
  cases m with
  | typing r => exact hrequest typing plain_typingRecord rfl h _
  | chat r => exact hrequest chat plain_chatRecord rfl h _
  | createRoom r => exact hrequest createRoom plain_createRecord rfl h _
  | joinRoom r => exact hrequest joinRoom plain_roomRequestRecord rfl h _
  | leaveRoom r => exact hrequest leaveRoom plain_roomRequestRecord rfl h _
  | inviteRoom r => exact hrequest inviteRoom plain_membersRecord rfl h _
  | kickRoom r => exact hrequest kickRoom plain_membersRecord rfl h _
  | getUsers r => exact hrequest getUsers plain_searchRecord rfl h _
  | getChats r => exact hrequest getChats plain_rangeRecord rfl h _
  | getNotifications r => exact hrequest getNotifications plain_rangeRecord rfl h _
  | userRooms => rfl

/-- `ClientEvent.data` is a spelling of the event. -/
theorem spells_data (m : ClientEvent) : m.Spells m.data ∧ Within 2 m.data ∧ FloatFree m.data := by
  have hrecord : ∀ {β : Type} {r : Record β}, r.Plain 1 → ∀ b, r.Spells b (r.shape.toJson b) ∧
      Within 2 (r.shape.toJson b) ∧ FloatFree (r.shape.toJson b) := by
    intro β r hplain b
    have hsurvives := hplain.survives (Nat.le_refl 1) b
    exact ⟨Record.spells_toJson hplain b, hsurvives.within _ hsurvives.refl, hsurvives.floatFree⟩
  cases m with
  | typing r => exact hrecord plain_typingRecord r
  | chat r => exact hrecord plain_chatRecord r
  | createRoom r => exact hrecord plain_createRecord r
  | joinRoom r | leaveRoom r => exact hrecord plain_roomRequestRecord r
  | inviteRoom r | kickRoom r => exact hrecord plain_membersRecord r
  | getUsers r => exact hrecord plain_searchRecord r
  | getChats r | getNotifications r => exact hrecord plain_rangeRecord r
  | userRooms => exact ⟨trivial, nofun, .object nofun⟩

/-- `ClientEvent.decode` refuses a kind that no event has, whatever the data are. -/
theorem decode_of_unknown {e : Envelope} (h : ∀ m : ClientEvent, m.kind ≠ e.kind) :
    decode e = .error (.unknownEvent e.kind) := by
  unfold decode
  -- of each kind that is known there is some event
  split <;> rename_i hkind
  case h_1 => exact absurd hkind.symm (h (.typing ⟨none, none⟩))
  case h_2 => exact absurd hkind.symm (h (.chat ⟨none, none, ""⟩))
  case h_3 => exact absurd hkind.symm (h (.createRoom ⟨none, "", false, false, []⟩))
  case h_4 => exact absurd hkind.symm (h (.joinRoom ⟨""⟩))
  case h_5 => exact absurd hkind.symm (h (.leaveRoom ⟨""⟩))
  case h_6 => exact absurd hkind.symm (h (.inviteRoom ⟨"", []⟩))
  case h_7 => exact absurd hkind.symm (h (.kickRoom ⟨"", []⟩))
  case h_8 => exact absurd hkind.symm (h (.getUsers ⟨""⟩))
  case h_9 => exact absurd hkind.symm (h (.getChats ⟨"", 0, none⟩))
  case h_10 => exact absurd hkind.symm (h (.getNotifications ⟨"", 0, none⟩))
  case h_11 => exact absurd hkind.symm (h .userRooms)
  case h_12 => rfl

/-- `Envelope.parse` and then `decode`, for an event in any spelling. -/
theorem parse_decode_of_spells {m : ClientEvent} (hspells : m.Spells (data.getD .null))
    (hdata : Within (nestingLimit - 1) (data.getD .null)) (h : Encloses m.kind data w)
    (htext : IsText w text) : Envelope.parse text >>= decode = .ok m := by
  rw [Envelope.parse_of_encloses h hdata htext]
  exact decode_of_spells hspells

/-- `Envelope.parse` and then `decode`, for the text that is written for an event. -/
theorem parse_decode_encode (m : ClientEvent) :
    Envelope.parse (envelopeRecord.shape.encode ⟨m.kind, m.data⟩) >>= decode = .ok m := by
  obtain ⟨hspells, hwithin, hfloat⟩ := m.spells_data
  have hwhole : FloatFree (envelopeRecord.shape.toJson ⟨m.kind, m.data⟩) :=
    .object (List.forall_mem_cons.2 ⟨.text m.kind, List.forall_mem_singleton.2 hfloat⟩)
  have hencloses : Encloses m.kind (some m.data) (envelopeRecord.shape.toJson ⟨m.kind, m.data⟩) :=
    .object rfl rfl
  exact @parse_decode_of_spells (some m.data) _ _ m hspells (hwithin.mono (by decide)) hencloses
    (isText_render hwhole)

/-- A client gets what it asks for, however it spells that. What it gets is of the kind it has
named, and a kind that no event has is refused. -/
theorem decodes_spelled :
    (∀ (m : ClientEvent) (data : Option Json) (w : Json) (text : String),
      m.Spells (data.getD .null) → Within (nestingLimit - 1) (data.getD .null) →
      Encloses m.kind data w → IsText w text → Envelope.parse text >>= decode = .ok m) ∧
    (∀ m : ClientEvent,
      Envelope.parse (envelopeRecord.shape.encode ⟨m.kind, m.data⟩) >>= decode = .ok m) ∧
    (∀ e m, decode e = .ok m → m.kind = e.kind) ∧
    (∀ e : Envelope, (∀ m : ClientEvent, m.kind ≠ e.kind) →
      decode e = .error (.unknownEvent e.kind)) :=
  ⟨fun _ _ _ _ => parse_decode_of_spells, parse_decode_encode, fun _ _ => kind_of_decode,
    fun _ => decode_of_unknown⟩

/-- A `.createRoom` with the other name of one member, without those that have their fallbacks, and
with a member that no record has. -/
theorem decodes_spelled_of_other_name :
    let data : Json := .object [("colour", .list []), ("private", .bool true), ("desc", .text "us")]
    Envelope.parse (render (.object [("data", data), ("type", .text "create-room")])) >>= decode =
      .ok (.createRoom ⟨none, "us", true, false, []⟩) := by
  intro data
  have hspells : (createRoom ⟨none, "us", true, false, []⟩).Spells data := by
    refine .object ⟨.missing rfl rfl, .given rfl rfl, .given rfl rfl, ?_⟩
    exact ⟨.missing rfl rfl, .missing rfl rfl, trivial⟩
  have hwithin : Within (nestingLimit - 1) data := by
    refine List.forall_mem_cons.2 ⟨fun _ h => absurd h List.not_mem_nil, ?_⟩
    refine List.forall_mem_cons.2 ⟨within_of_isScalar trivial, ?_⟩
    exact List.forall_mem_singleton.2 (within_of_isScalar trivial)
  have hfloat : FloatFree (.object [("data", data), ("type", .text "create-room")]) := by
    refine .object (List.forall_mem_cons.2 ⟨.object ?_, List.forall_mem_singleton.2 (.text _)⟩)
    refine List.forall_mem_cons.2 ⟨.list nofun, List.forall_mem_cons.2 ⟨.bool true, ?_⟩⟩
    exact List.forall_mem_singleton.2 (.text "us")
  exact decodes_spelled.1 _ (some data) _ _ hspells hwithin (.object rfl rfl) (isText_render hfloat)

end ClientEvent

end GroupChat
