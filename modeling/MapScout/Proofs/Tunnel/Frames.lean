import MapScout.Proofs.Base64
import MapScout.Proofs.Json.Records
import MapScout.Tunnel.Frame

/-!
# Frames and bodies

A frame holds exactly the request or the reply that it was made from, and its body is exactly the
one that it was made with.  The other way round, a body can be read only from the text that is
written for it, so that two texts never stand for the same body.
-/

namespace MapScout

/-! ## Base64 texts -/

namespace Base64

/-- A string in the standard alphabet, padded to a multiple of four, with no unused bit set. -/
def IsText (s : String) : Prop := ∃ values, IsWhole values ∧ bytesOf s = written values

theorem exists_decode_iff {s : String} : (∃ bs, decode (bytesOf s) = .ok bs) ↔ IsText s := by
  constructor
  · rintro ⟨bs, h⟩
    obtain ⟨values, hwhole, -, hs⟩ := exists_written_of_decode h
    exact ⟨values, hwhole, hs⟩
  · rintro ⟨values, hwhole, hs⟩
    exact ⟨unpack values, hs ▸ decode_written hwhole⟩

theorem exists_error_iff {s : String} : (∃ e, decode (bytesOf s) = .error e) ↔ ¬ IsText s := by
  rw [← exists_decode_iff]
  cases decode (bytesOf s) <;> simp

end Base64

/-! ## Frames -/

namespace TunnelRequest

theorem record?_toJson (r : TunnelRequest) :
    r.toJson.record? fieldNames =
      some [("meth", .text r.method), ("host", .text r.target), ("cont", .text r.contentType),
        ("user", .text r.userAgent), ("data", .text r.data)] :=
  Json.record?_fields (by simp [fieldNames]) (by simp)

theorem ofJson?_toJson (r : TunnelRequest) : ofJson? r.toJson = some r := by
  rw [ofJson?, record?_toJson]
  rfl

theorem isWritable_toJson (r : TunnelRequest) : Json.IsWritable r.toJson := by
  apply Json.IsWritable.fields
  simp [Json.IsWritable.text]

/-- A frame holds the request that it was written for. -/
theorem ofFrame?_frame (r : TunnelRequest) : ofFrame? r.frame = some r := by
  rw [ofFrame?, frame, Json.ofBytes?_render r.isWritable_toJson, Option.bind_some, ofJson?_toJson]

/-- A body is read from the text that is written for it and from no other. -/
theorem body_eq_ok_iff {r : TunnelRequest} {body : Bytes} :
    r.body = .ok body ↔ r = make r.method r.target r.contentType r.userAgent body := by
  obtain ⟨method, target, contentType, userAgent, data⟩ := r
  simpa [make, TunnelRequest.body] using Base64.decode_bytesOf_eq_ok_iff

end TunnelRequest

namespace AgentReply

theorem record?_toJson (r : AgentReply) :
    r.toJson.record? fieldNames =
      some [("status", .nat r.status.toNat), ("response", .text r.response),
        ("location", .text r.location)] :=
  Json.record?_fields (by simp [fieldNames]) (by simp)

theorem ofJson?_toJson (r : AgentReply) : ofJson? r.toJson = some r := by
  rw [ofJson?, record?_toJson, Option.bind_eq_bind, Option.bind_some]
  rw [Json.Record.required_of_get? rfl (Json.uint16?_nat r.status)]
  rfl

theorem isWritable_toJson (r : AgentReply) : Json.IsWritable r.toJson := by
  apply Json.IsWritable.fields
  simp [Json.IsWritable.text, Json.isWritable_nat]

/-- A frame holds the reply that it was written for. -/
theorem ofFrame?_frame (r : AgentReply) : ofFrame? r.frame = some r := by
  rw [ofFrame?, frame, Json.ofBytes?_render r.isWritable_toJson, Option.bind_some, ofJson?_toJson]

/-- A body is read from the text that is written for it and from no other. -/
theorem body_eq_ok_iff {r : AgentReply} {body : Bytes} :
    r.body = .ok body ↔ r = make r.status body r.location := by
  obtain ⟨status, response, location⟩ := r
  simpa [make, AgentReply.body] using Base64.decode_bytesOf_eq_ok_iff

end AgentReply

/-- What is put into a frame comes out of it again, and every body has one text: whatever else
stands in its place is an error. -/
theorem frames_round_trip :
    (∀ method target contentType userAgent body,
      let r := TunnelRequest.make method target contentType userAgent body
      TunnelRequest.ofFrame? r.frame = some r ∧ r.body = .ok body) ∧
    (∀ status body location,
      let r := AgentReply.make status body location
      AgentReply.ofFrame? r.frame = some r ∧ r.body = .ok body) ∧
    (∀ (r : TunnelRequest) (body : Bytes), r.body = .ok body ↔
      r = TunnelRequest.make r.method r.target r.contentType r.userAgent body) ∧
    (∀ (r : AgentReply) (body : Bytes), r.body = .ok body ↔
      r = AgentReply.make r.status body r.location) ∧
    (∀ r : TunnelRequest, (∃ e, r.body = .error e) ↔ ¬ Base64.IsText r.data) ∧
    (∀ r : AgentReply, (∃ e, r.body = .error e) ↔ ¬ Base64.IsText r.response) := by
  refine ⟨fun method target contentType userAgent body => ⟨TunnelRequest.ofFrame?_frame _, ?_⟩,
    fun status body location => ⟨AgentReply.ofFrame?_frame _, ?_⟩,
    fun r body => r.body_eq_ok_iff, fun r body => r.body_eq_ok_iff,
    fun r => Base64.exists_error_iff, fun r => Base64.exists_error_iff⟩
  · exact TunnelRequest.body_eq_ok_iff.mpr rfl
  · exact AgentReply.body_eq_ok_iff.mpr rfl

end MapScout
