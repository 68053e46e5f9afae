import GroupChat.Proofs.Json.Survival
import GroupChat.Proofs.Json.Yields
import GroupChat.Wire.ServerEvent

/-!
# Encoding of what goes over the wire

Whatever goes over the wire, or is kept in the file of accounts, is what its text is decoded to.
This also holds of any other text of it: blanks between the parts, members in another order and
further members make no difference. So no two values have the same text, and what a text was decoded
to is found again in its own text.

## Main definitions

- `Json.Shape.Faithful`: values are what their texts are decoded to.
- `Reply.Fits`, `ServerEvent.Fits`: replies whose result is as the program has it.
- `Wire.loosened`, …, `Wire.loosenedEvent`: the values that may stand in the place of one written.

## Main statements

- `Wire.faithful_shapes`: all values that go over the wire are what their texts are decoded to.
-/

namespace GroupChat

open Json Wire

namespace Json

/-- The values that fit are what their texts are decoded to by the `shape`, also in a spelling that
is `loose`. -/
structure Shape.Faithful {α : Type} (shape : Shape α) (fits : α → Prop)
    (loose : α → Json → Json → Prop) : Prop where
  /-- The text of a value is decoded to it. -/
  decode_encode : ∀ a, fits a → shape.decode (shape.encode a) = .ok a
  /-- Any text of what may stand in the place of the value written is decoded to it. -/
  decode_text : ∀ a w text, fits a → loose a (shape.toJson a) w → IsText w text →
    shape.decode text = .ok a
  /-- No two values have the same text. -/
  injective : ∀ a b, fits a → fits b → shape.encode a = shape.encode b → a = b
  /-- What a text was decoded to is found again in its own text. -/
  idempotent : ∀ text a, shape.decode text = .ok a → FloatFree (shape.toJson a) →
    shape.decode (shape.encode a) = .ok a

/-- A shape is `Faithful` if its values survive and all that is read fits. -/
theorem Shape.faithful_of_survives {α : Type} {shape : Shape α} {fits : α → Prop}
    {loose : α → Json → Json → Prop}
    (h : ∀ a, fits a → shape.Survives (loose a) nestingLimit a)
    (haccepted : ∀ text a, shape.decode text = .ok a → FloatFree (shape.toJson a) → fits a) :
    shape.Faithful fits loose where
  decode_encode a ha := (h a ha).decode_encode
  decode_text a w text ha hw htext := (h a ha).decode_text hw htext
  injective a b ha hb hab := by
    have hdecode := (h a ha).decode_encode
    rw [hab, (h b hb).decode_encode] at hdecode
    exact (Except.ok.inj hdecode).symm
  idempotent text a htext hfloat := (h a (haccepted text a htext hfloat)).decode_encode

end Json

/-- The result of the reply `r`, if there is one, is `Sound`, that is sorted, not too deep and not
the empty value, and `FloatFree`. -/
def Reply.Fits (n : Nat) (r : Reply) : Prop := ∀ v, r.result = some v → Sound n v ∧ FloatFree v

/-- A reply in an event fits (`Reply.Fits`), where it stands one deeper than alone. -/
def ServerEvent.Fits : ServerEvent → Prop
  | .success r | .forward r => r.Fits (nestingLimit - 2)
  | .error _ | .chat _ | .notification _ | .invited _ => True

namespace Wire

/-! ### What may stand in the place of a value -/

/-- A record `r` with its members in any order among others (`Loosened`). -/
def loosened {β : Type} (r : Record β) : Json → Json → Prop :=
  Loosened r.fields.names fun _ => Eq

/-- A record and an extra member, as `f` has them, in any order among others (`Loosened`). -/
def loosenedFlat {β γ δ : Type} (f : Flat β γ δ) : Json → Json → Prop :=
  Loosened (f.own.name :: f.inner.fields.names) fun _ => Eq

/-- A membership, where also the members of the `room` may stand in any order among others. -/
def loosenedMembership : Json → Json → Prop :=
  Loosened membershipRecord.fields.names fun name =>
    if name = "room" then loosened roomRecord else Eq

/-- A reply, where also the members of all objects in the `result` may stand in any order
(`Reordered`). -/
def loosenedReply : Json → Json → Prop :=
  Loosened replyRecord.fields.names fun name => if name = "result" then Reordered else Eq

/-- The content of an event, loosened as its type is (`loosened`, `loosenedReply`, `loosenedFlat`).
-/
def loosenedContent : ServerEvent → Json → Json → Prop
  | .error _ => loosened errorRecord
  | .success _ | .forward _ => loosenedReply
  | .chat _ => loosenedFlat chatView
  | .notification _ => loosenedFlat notificationView
  | .invited _ => loosened roomRecord

/-- The event `e` with its two members in either order among others, and a `loosenedContent`. -/
def loosenedEvent (e : ServerEvent) : Json → Json → Prop :=
  Loosened [serverEvent.tag, serverEvent.content] fun name =>
    if name = serverEvent.content then loosenedContent e else Eq

/-! ### Plain records -/

section Plain

open Shape

variable {depth : Nat}

theorem plain_roleShape : roleShape.Plain depth :=
  plain_choice fun role => by cases role <;> rfl

theorem plain_notificationKindShape : notificationKindShape.Plain depth :=
  plain_choice fun kind => by cases kind <;> rfl

theorem plain_accountRecord : accountRecord.Plain depth where
  fields := ⟨⟨plain_text, fun _ => rfl⟩, ⟨plain_text, fun _ => rfl⟩,
    ⟨plain_roleShape, fun _ => rfl⟩, trivial⟩
  names := by decide
  build _ := rfl

theorem plain_claimsRecord : claimsRecord.Plain depth where
  fields := ⟨⟨plain_text, fun _ => rfl⟩, ⟨plain_text, fun _ => rfl⟩,
    ⟨plain_roleShape, fun _ => rfl⟩, trivial⟩
  names := by decide
  build _ := rfl

theorem plain_roomRecord : roomRecord.Plain depth where
  fields := ⟨⟨plain_text, fun _ => rfl⟩, ⟨plain_text, fun _ => rfl⟩, ⟨plain_text, fun _ => rfl⟩,
    ⟨plain_flag, fun _ => rfl⟩, ⟨plain_flag, fun _ => rfl⟩, trivial⟩
  names := by decide
  build _ := rfl

theorem plain_messageRecord : messageRecord.Plain depth where
  fields := ⟨⟨plain_text, fun _ => rfl⟩, ⟨plain_text, fun _ => rfl⟩, ⟨plain_text, fun _ => rfl⟩,
    ⟨plain_text, fun _ => rfl⟩, ⟨plain_int64, fun _ => rfl⟩, trivial⟩
  names := by decide
  build _ := rfl

theorem plain_notificationRecord : notificationRecord.Plain depth where
  fields := ⟨⟨plain_text, fun _ => rfl⟩, ⟨plain_notificationKindShape, fun _ => rfl⟩,
    ⟨plain_text, fun _ => rfl⟩, ⟨plain_text, fun _ => rfl⟩, ⟨plain_int64, fun _ => rfl⟩, trivial⟩
  names := by decide
  build _ := rfl

theorem plain_errorRecord : errorRecord.Plain depth where
  fields := ⟨⟨plain_uint16, fun _ => rfl⟩, ⟨plain_text, fun _ => rfl⟩, trivial⟩
  names := by decide
  build _ := rfl

end Plain

theorem proper_accountEntry : accountEntry.Proper := ⟨rfl, rfl, by decide⟩

theorem proper_chatView : chatView.Proper := ⟨rfl, rfl, by decide⟩

theorem proper_notificationView : notificationView.Proper := ⟨rfl, rfl, by decide⟩

/-! ### What survives -/

variable {n : Nat}

theorem survives_plain {β : Type} {r : Record β} (h : r.Plain 0) (b : β) :
    r.shape.Survives (loosened r) (n + 1) b :=
  h.survives (Nat.zero_le n) b

/-- A record with another one in it survives the changes that `loosenedFlat` allows, if no member is
in both. -/
theorem survives_flat {β γ δ : Type} {f : Flat β γ δ} (hf : f.Proper) (h : f.inner.Plain 0)
    (hown : f.own.shape.Plain 0) (hbuild : ∀ d, f.build (f.parts d).1 (f.parts d).2 = d) (d : δ) :
    f.shape.Survives (loosenedFlat f) (n + 1) d := by
  refine Flat.survives hf ?_ (h.fields.survive (Nat.zero_le n) _)
    (hown.survives (Nat.zero_le n) _)
  rw [h.build, hbuild]

theorem survives_accountEntry (e : AccountEntry) :
    accountEntry.shape.Survives (loosenedFlat accountEntry) (n + 1) e :=
  survives_flat proper_accountEntry plain_accountRecord Shape.plain_text (fun _ => rfl) e

theorem survives_chatView (v : ChatView) :
    chatView.shape.Survives (loosenedFlat chatView) (n + 1) v :=
  survives_flat proper_chatView plain_messageRecord Shape.plain_text (fun _ => rfl) v

theorem survives_notificationView (v : NotificationView) :
    notificationView.shape.Survives (loosenedFlat notificationView) (n + 1) v :=
  survives_flat proper_notificationView plain_notificationRecord Shape.plain_text (fun _ => rfl) v

theorem survives_membership (m : Membership) :
    membershipRecord.shape.Survives loosenedMembership (n + 2) m := by
  refine Record.survives (by decide) rfl ⟨.shown rfl ?_, .shown rfl ?_, trivial⟩
  · exact survives_plain plain_roomRecord m.room
  · exact plain_roleShape.survives (Nat.zero_le _) m.role

/-- `replyRecord` survives if its result is no `null` and not nested too deeply. -/
theorem survives_reply {r : Reply} (h : r.Fits n) :
    replyRecord.shape.Survives loosenedReply (n + 1) r := by
  refine Record.survives (by decide) rfl ⟨.shown rfl ?_, ?_, trivial⟩
  · exact Shape.plain_text.survives (Nat.zero_le n) r.event
  · cases hresult : r.result with
    | none => exact .hidden rfl rfl
    | some v =>
      obtain ⟨hsound, hfloat⟩ := h v hresult
      exact .shown rfl (Shape.survives_optional_any hsound hfloat)

/-- An event `Survives` if its name leads to the shape of its content. -/
theorem survives_variant {α : Type} {shape : Shape α} {f : α → ServerEvent} {a : α} {name : String}
    (hwrite : serverEvent.write (f a) = (name, shape.toJson a))
    (hvariant : serverEvent.variants.lookup name = some (shape.map f))
    (h : shape.Survives (loosenedContent (f a)) (nestingLimit - 1) a) :
    serverEvent.shape.Survives (loosenedEvent (f a)) nestingLimit (f a) :=
  Tagged.survives (by decide) hwrite hvariant h

/-- Every event that `Fits` `Survives`. -/
theorem survives_event {e : ServerEvent} (h : e.Fits) :
    serverEvent.shape.Survives (loosenedEvent e) nestingLimit e := by
  cases e with
  | error e => exact survives_variant rfl rfl (survives_plain plain_errorRecord e)
  | success r => exact survives_variant rfl rfl (survives_reply h)
  | forward r => exact survives_variant rfl rfl (survives_reply h)
  | chat v => exact survives_variant rfl rfl (survives_chatView v)
  | notification v => exact survives_variant rfl rfl (survives_notificationView v)
  | invited room => exact survives_variant rfl rfl (survives_plain plain_roomRecord room)

/-! ### What is accepted -/

/-- Whatever `replyRecord` reads has a sound result, as members are sorted on the way. -/
theorem yields_reply (n : Nat) :
    replyRecord.shape.Yields (n + 1) fun r => ∀ v, r.result = some v → Sound n v := by
  have hfields : replyRecord.fields.Yield n
      (fun _ => True, fun result => ∀ v, result = some v → Sound n v, ()) := by
    refine ⟨Decoder.yields_of_forall (fun _ => trivial) n, nofun, Shape.yields_optional_any n, ?_,
      trivial⟩
    rintro _ ⟨⟩
    exact nofun
  exact Record.yields hfields fun row hrow => hrow.2.1

theorem floatFree_of_reply {r : Reply} (h : FloatFree (replyRecord.shape.toJson r)) :
    ∀ v, r.result = some v → FloatFree v := by
  intro v hv
  obtain ⟨event, result⟩ := r
  cases hv
  have hobject : FloatFree (.object [("event", .text event), ("result", v)]) := h
  cases hobject with
  | object members => exact members ("result", v) (List.mem_cons_of_mem _ List.mem_cons_self)

/-- A reply that was read `Fits`, if it is `FloatFree`. -/
theorem fits_of_reply {r : Reply} {text : String}
    (h : replyRecord.shape.decode text = .ok r) (hfloat : FloatFree (replyRecord.shape.toJson r)) :
    r.Fits (nestingLimit - 1) :=
  fun v hv => ⟨(yields_reply _).read.of_run h v hv, floatFree_of_reply hfloat v hv⟩

/-- The result of a reply in an event is `Sound`. -/
def SoundEvent : ServerEvent → Prop
  | .success r | .forward r => ∀ v, r.result = some v → Sound (nestingLimit - 2) v
  | .error _ | .chat _ | .notification _ | .invited _ => True

/-- Whatever `serverEvent` reads is a sound event. -/
theorem yields_event : (serverEvent.read nestingLimit).Yields SoundEvent := by
  have hsuccess : (replyRecord.shape.map .success).Yields (nestingLimit - 1) SoundEvent :=
    Decoder.Yields.map (yields_reply (nestingLimit - 2))
  have hforward : (replyRecord.shape.map .forward).Yields (nestingLimit - 1) SoundEvent :=
    Decoder.Yields.map (yields_reply (nestingLimit - 2))
  have hother : ∀ {α : Type} (shape : Shape α) (f : α → ServerEvent), (∀ a, SoundEvent (f a)) →
      (shape.map f).Yields (nestingLimit - 1) SoundEvent := fun shape f hf =>
    Decoder.Yields.map (Decoder.yields_of_forall hf _)
  -- the variants one by one, of which two hold a reply
  refine Tagged.yields_read fun m hm => ?_
  simp only [serverEvent, List.mem_cons, List.not_mem_nil, or_false] at hm
  obtain rfl | rfl | rfl | rfl | rfl | rfl := hm
  · exact hother _ _ fun _ => trivial
  · exact hsuccess
  · exact hforward
  · exact hother _ _ fun _ => trivial
  · exact hother _ _ fun _ => trivial
  · exact hother _ _ fun _ => trivial

/-- An event that was read `Fits`, if it is `FloatFree`. -/
theorem fits_of_event {e : ServerEvent} {text : String} (h : serverEvent.shape.decode text = .ok e)
    (hfloat : FloatFree (serverEvent.shape.toJson e)) : e.Fits := by
  have hsound : SoundEvent e := yields_event.of_run h
  have hobject : FloatFree (.object [(serverEvent.tag, .text (serverEvent.write e).1),
    (serverEvent.content, (serverEvent.write e).2)]) := hfloat
  have hcontent : FloatFree (serverEvent.write e).2 := by
    cases hobject with
    | object members =>
      exact members (serverEvent.content, _) (List.mem_cons_of_mem _ List.mem_cons_self)
  cases e with
  | success r | forward r => exact fun v hv => ⟨hsound v hv, floatFree_of_reply hcontent v hv⟩
  | error | chat | notification | invited => exact trivial

/-! ### Values on the wire -/

/-- All values that go over the wire are what their texts are decoded to. -/
theorem faithful_shapes :
    accountRecord.shape.Faithful (fun _ => True) (fun _ => loosened accountRecord) ∧
    accountEntry.shape.Faithful (fun _ => True) (fun _ => loosenedFlat accountEntry) ∧
    claimsRecord.shape.Faithful (fun _ => True) (fun _ => loosened claimsRecord) ∧
    roomRecord.shape.Faithful (fun _ => True) (fun _ => loosened roomRecord) ∧
    membershipRecord.shape.Faithful (fun _ => True) (fun _ => loosenedMembership) ∧
    messageRecord.shape.Faithful (fun _ => True) (fun _ => loosened messageRecord) ∧
    notificationRecord.shape.Faithful (fun _ => True) (fun _ => loosened notificationRecord) ∧
    chatView.shape.Faithful (fun _ => True) (fun _ => loosenedFlat chatView) ∧
    notificationView.shape.Faithful (fun _ => True) (fun _ => loosenedFlat notificationView) ∧
    replyRecord.shape.Faithful (Reply.Fits (nestingLimit - 1)) (fun _ => loosenedReply) ∧
    serverEvent.shape.Faithful ServerEvent.Fits loosenedEvent := by
  -- most types are read back as they stand
  have hplain : ∀ {β : Type} {r : Record β}, r.Plain 0 →
      r.shape.Faithful (fun _ => True) fun _ => loosened r := fun h =>
    Shape.faithful_of_survives (fun b _ => survives_plain h b) fun _ _ _ _ => trivial
  refine ⟨hplain plain_accountRecord, ?_, hplain plain_claimsRecord, hplain plain_roomRecord, ?_,
    hplain plain_messageRecord, hplain plain_notificationRecord, ?_, ?_, ?_, ?_⟩
  · exact Shape.faithful_of_survives (fun e _ => survives_accountEntry e) fun _ _ _ _ => trivial
  · exact Shape.faithful_of_survives (fun m _ => survives_membership m) fun _ _ _ _ => trivial
  · exact Shape.faithful_of_survives (fun v _ => survives_chatView v) fun _ _ _ _ => trivial
  · exact Shape.faithful_of_survives (fun v _ => survives_notificationView v) fun _ _ _ _ => trivial
  · exact Shape.faithful_of_survives (fun r hr => survives_reply hr) fun _ _ => fits_of_reply
  · exact Shape.faithful_of_survives (fun e he => survives_event he) fun _ _ => fits_of_event

/-- A `Reply` as another writer may spell it: the content stands in front of the name, with a
further member in it. -/
theorem faithful_shapes_of_content_first :
    let room : Json := .object [("room_id", .text "r1")]
    let content : Json := .object [("id", .bool true), ("result", room), ("event", .text "join")]
    serverEvent.shape.decode (render (.object [("data", content), ("type", .text "success")])) =
      .ok (.success ⟨"join", some room⟩) := by
  intro room content
  have hroom : FloatFree room := .object (List.forall_mem_singleton.2 (.text "r1"))
  have hfits : ServerEvent.Fits (.success ⟨"join", some room⟩) := by
    rintro _ ⟨⟩
    refine ⟨⟨rfl, ?_, nofun⟩, hroom⟩
    exact List.forall_mem_singleton.2 (within_of_isScalar trivial)
  have hcontent : loosenedReply (.object [("event", .text "join"), ("result", room)]) content := by
    refine @Loosened.mk _ _ _ [("event", .text "join"), ("result", room)] [("id", .bool true)] _
      (.cons ⟨rfl, rfl⟩ (.cons ⟨rfl, .refl room⟩ .nil)) ?_
      (List.reverse_perm [("event", Json.text "join"), ("result", room), ("id", .bool true)])
    exact List.forall_mem_singleton.2 ⟨by decide, trivial⟩
  have hevent : loosenedEvent (.success ⟨"join", some room⟩)
      (serverEvent.shape.toJson (.success ⟨"join", some room⟩))
      (.object [("data", content), ("type", .text "success")]) := by
    refine @Loosened.mk _ _ _ [("type", .text "success"), ("data", content)] [] _
      (.cons ⟨rfl, rfl⟩ (.cons ⟨rfl, hcontent⟩ .nil)) ?_ (.swap _ _ _)
    exact fun _ hm => absurd hm List.not_mem_nil
  have hfloat : FloatFree (.object [("data", content), ("type", .text "success")]) := by
    refine .object (List.forall_mem_cons.2 ⟨.object ?_, List.forall_mem_singleton.2 (.text _)⟩)
    refine List.forall_mem_cons.2 ⟨.bool true, List.forall_mem_cons.2 ⟨hroom, ?_⟩⟩
    exact List.forall_mem_singleton.2 (.text _)
  exact faithful_shapes.2.2.2.2.2.2.2.2.2.2.decode_text _ _ _ hfits hevent (isText_render hfloat)

end Wire

end GroupChat
