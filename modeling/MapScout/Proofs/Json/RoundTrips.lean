import MapScout.Dispatch.Board
import MapScout.Map.Object
import MapScout.Map.Payload
import MapScout.Map.Place
import MapScout.Proofs.Json.Forms
import MapScout.Stock.Account
import MapScout.Stock.Proxy

/-!
# Records that come back

Every record that is stored, sent or received is restored from the text that is written for it.  The
fields that are left out when they are zero or false come back as their defaults; only the point
where a creature appeared is never written.
-/

namespace MapScout

open Json Json.Form

/-! ## Accounts, proxies and the status report -/

namespace Account

theorem lawful : Lawful Account (fun _ => []) (fun a => a) := by
  refine .plain (fun a => ?_) (fun a => ?_)
  · apply IsWritable.fields
    simp [IsWritable.text, IsWritable.bool]
  · change ofJson? a.toJson = some a
    rw [ofJson?, toJson, record?_fields (by simp [fieldNames]) (by simp)]
    rfl

end Account

namespace Proxy

theorem lawful : Lawful Proxy (fun _ => []) (fun a => a) := by
  refine .plain (fun p => ?_) (fun p => ?_)
  · apply IsWritable.fields
    simp [isWritable_nat, IsWritable.bool]
  · change ofJson? p.toJson = some p
    rw [ofJson?, toJson, record?_fields (by simp [fieldNames]) (by simp), Option.bind_eq_bind,
      Option.bind_some, Record.required_of_get? rfl (uint64?_nat p.id)]
    rfl

end Proxy

namespace Binding

theorem lawful : Lawful Binding (fun _ => []) (fun a => a) := by
  refine .plain (fun b => ?_) (fun b => ?_)
  · apply IsWritable.fields
    simp [IsWritable.text, isWritable_nat]
  · change ofJson? b.toJson = some b
    rw [ofJson?, toJson, record?_fields (by simp [fieldNames]) (by simp), Option.bind_eq_bind,
      Option.bind_some, Record.required_of_get? rfl (uint64?_nat b.proxy)]
    rfl

end Binding

namespace Metrics

theorem lawful : Lawful Metrics (fun _ => []) (fun a => a) := by
  refine .plain (fun m => ?_) (fun m => ?_)
  · apply IsWritable.fields
    simp [isWritable_nat]
  · change ofJson? m.toJson = some m
    rw [ofJson?, toJson, record?_fields (by simp [fieldNames]) (by simp), Option.bind_eq_bind,
      Option.bind_some, Record.required_of_get? rfl (uint64?_nat m.scans),
      Record.required_of_get? rfl (uint64?_nat m.failures),
      Record.required_of_get? rfl (uint64?_nat m.busy),
      Record.required_of_get? rfl (uint64?_nat m.timeouts),
      Record.required_of_get? rfl (uint64?_nat m.evictions)]
    rfl

end Metrics

namespace StatusReport

theorem lawful : Lawful StatusReport (fun _ => []) (fun a => a) := by
  refine .plain (fun s => ?_) (fun s => ?_)
  · apply IsWritable.fields
    simp only [List.forall_mem_cons]
    exact ⟨Binding.lawful.isWritable_list s.sessions, isWritable_nat _,
      Metrics.lawful.writable s.metrics, by simp⟩
  · have hsessions : Json.list? Binding.ofJson? (.array (s.sessions.map Binding.toJson)) =
        some (s.sessions.map fun b => b) := Binding.lawful.list?_array (by simp [AllFinite])
    have hmetrics : Metrics.ofJson? s.metrics.toJson = some s.metrics :=
      Metrics.lawful.restored s.metrics (by simp [AllFinite])
    rw [List.map_id'] at hsessions
    change ofJson? s.toJson = some s
    rw [ofJson?, toJson, record?_fields (by simp [fieldNames]) (by simp), Option.bind_eq_bind,
      Option.bind_some, Record.required_of_get? rfl hsessions,
      Record.required_of_get? rfl (uint64?_nat s.pooled), Record.required_of_get? rfl hmetrics]
    rfl

end StatusReport

/-! ## Places and map objects -/

namespace Place

def floats (p : Place) : List Binary64 := [p.lat, p.lng]

theorem lawful : Lawful Place floats (fun p => p) where
  writable p := by
    apply IsWritable.fields
    simp [isWritable_float]
  restored p hfinite := by
    obtain ⟨hlat, hlng⟩ := allFinite_pair.mp hfinite
    change ofJson? p.toJson = some p
    rw [ofJson?, toJson, record?_fields (by simp [fieldNames]) (by simp), Option.bind_eq_bind,
      Option.bind_some, Record.required_of_get? rfl (float?_float hlat),
      Record.required_of_get? rfl (float?_float hlng)]
    rfl
  finite j p h := by
    change ofJson? j = some p at h
    simp only [ofJson?, Option.bind_eq_bind, Option.bind_eq_some_iff, Option.pure_def,
      Option.some.injEq] at h
    obtain ⟨r, -, lat, hlat, lng, hlng, rfl⟩ := h
    exact allFinite_pair.mpr ⟨Record.isFinite_of_required hlat, Record.isFinite_of_required hlng⟩
  whole _ _ _ := rfl

end Place

namespace ObjectKind

theorem ofCode?_code (k : ObjectKind) : ofCode? k.code = some k := by
  cases k <;> rfl

theorem ofJson?_toJson (k : ObjectKind) : ofJson? k.toJson = some k := by
  rw [ofJson?, toJson, uint8?_nat, Option.bind_some, ofCode?_code]

theorem lawful : Lawful ObjectKind (fun _ => []) (fun a => a) :=
  .plain (fun _ => isWritable_nat _) ofJson?_toJson

end ObjectKind

namespace MapObject

def floats (o : MapObject) : List Binary64 := [o.lat, o.lng]

def sent (o : MapObject) : MapObject := { o with spawnpointId := "" }

/-- The fields that are written for an object. -/
def written (o : MapObject) : List (String × Json) :=
  [("type", o.kind.toJson), ("id", Json.text o.id)] ++
    (if o.pokemonId = 0 then [] else [("pokemonID", .nat o.pokemonId.toNat)]) ++
    [("lat", .float o.lat), ("lng", .float o.lng)] ++
    (if o.expiry = 0 then [] else [("expiry", .int o.expiry.toInt)]) ++
    (if o.lured then [("lured", .bool true)] else []) ++
    (if o.team = 0 then [] else [("team", .nat o.team.toNat)])

/-- Fields are written in a fixed order, some of them left out. -/
theorem written_sublist (o : MapObject) : (o.written.map (·.1)).Sublist fieldNames := by
  change List.Sublist _
    (["type", "id"] ++ ["pokemonID"] ++ ["lat", "lng"] ++ ["expiry"] ++ ["lured"] ++ ["team"])
  simp only [written, List.map_append]
  refine .append (.append (.append (.append (.append ?_ ?_) ?_) ?_) ?_) ?_
  all_goals try split_ifs
  all_goals simp

/-- All fields that are written are known to the reader. -/
theorem record?_toJson (o : MapObject) : o.toJson.record? fieldNames = some o.written :=
  record?_fields (fun m hm => o.written_sublist.subset (List.mem_map_of_mem hm))
    (o.written_sublist.nodup (by decide))

/-- The field of each name; four of them are there only when they are not zero or false. -/
theorem get?_written (o : MapObject) :
    Record.get? o.written "type" = some o.kind.toJson ∧
    Record.get? o.written "id" = some (Json.text o.id) ∧
    (Record.get? o.written "pokemonID" =
      if o.pokemonId = 0 then none else some (.nat o.pokemonId.toNat)) ∧
    Record.get? o.written "lat" = some (.float o.lat) ∧
    Record.get? o.written "lng" = some (.float o.lng) ∧
    (Record.get? o.written "expiry" =
      if o.expiry = 0 then none else some (.int o.expiry.toInt)) ∧
    (Record.get? o.written "lured" = if o.lured = false then none else some (.bool true)) ∧
    (Record.get? o.written "team" = if o.team = 0 then none else some (.nat o.team.toNat)) := by
  simp only [written, Record.get?_append]
  refine ⟨?_, ?_, ?_, ?_, ?_, ?_, ?_, ?_⟩
  all_goals split_ifs <;> first | rfl | simp_all

theorem lawful : Lawful MapObject floats sent where
  writable o := by
    apply IsWritable.fields
    simp only [List.forall_mem_append]
    refine ⟨⟨⟨⟨⟨?_, ?_⟩, ?_⟩, ?_⟩, ?_⟩, ?_⟩
    · simp [ObjectKind.toJson, isWritable_nat, IsWritable.text]
    · split_ifs <;> simp [isWritable_nat]
    · simp [isWritable_float]
    · split_ifs <;> simp [isWritable_int]
    · split_ifs <;> simp [IsWritable.bool]
    · split_ifs <;> simp [isWritable_nat]
  restored o hfinite := by
    obtain ⟨hlat, hlng⟩ := allFinite_pair.mp hfinite
    obtain ⟨htype, hid, hpokemonId, hlat', hlng', hexpiry, hlured, hteam⟩ := o.get?_written
    change ofJson? o.toJson = some o.sent
    rw [ofJson?, record?_toJson, Option.bind_eq_bind, Option.bind_some,
      Record.required_of_get? htype o.kind.ofJson?_toJson,
      Record.required_of_get? hid (text?_text o.id),
      Record.optional_of_get?_ite hpokemonId (fun h => h) (fun _ => uint32?_nat o.pokemonId),
      Record.required_of_get? hlat' (float?_float hlat),
      Record.required_of_get? hlng' (float?_float hlng),
      Record.optional_of_get?_ite hexpiry (fun h => h) (fun _ => int64?_int o.expiry),
      Record.optional_of_get?_ite hlured (fun h => h) (fun h => by rw [eq_true_of_ne_false h]; rfl),
      Record.optional_of_get?_ite hteam (fun h => h) (fun _ => uint32?_nat o.team)]
    rfl
  finite j o h := by
    change ofJson? j = some o at h
    simp only [ofJson?, Option.bind_eq_bind, Option.bind_eq_some_iff, Option.pure_def,
      Option.some.injEq] at h
    obtain ⟨r, -, kind, -, id, -, pokemonId, -, lat, hlat, lng, hlng, h⟩ := h
    obtain ⟨expiry, -, lured, -, team, -, rfl⟩ := h
    exact allFinite_pair.mpr
      ⟨Record.isFinite_of_required hlat, Record.isFinite_of_required hlng⟩
  whole j o h := by
    change ofJson? j = some o at h
    simp only [ofJson?, Option.bind_eq_bind, Option.bind_eq_some_iff, Option.pure_def,
      Option.some.injEq] at h
    obtain ⟨r, -, kind, -, id, -, pokemonId, -, lat, -, lng, -, h⟩ := h
    obtain ⟨expiry, -, lured, -, team, -, rfl⟩ := h
    rfl

end MapObject

namespace ScanReply

def floats (r : ScanReply) : List Binary64 := r.mapObjects.flatMap MapObject.floats

def sent (r : ScanReply) : ScanReply := { r with mapObjects := r.mapObjects.map MapObject.sent }

theorem lawful : Lawful ScanReply floats sent where
  writable r := by
    apply IsWritable.fields
    simp only [List.forall_mem_cons]
    exact ⟨.bool r.ok, .text r.error, MapObject.lawful.isWritable_list r.mapObjects, by simp⟩
  restored r hfinite := by
    have hobjects : Json.list? MapObject.ofJson? (.array (r.mapObjects.map MapObject.toJson)) =
        some (r.mapObjects.map MapObject.sent) := MapObject.lawful.list?_array hfinite
    change ofJson? r.toJson = some r.sent
    rw [ofJson?, toJson, record?_fields (by simp [fieldNames]) (by simp), Option.bind_eq_bind,
      Option.bind_some, Record.required_of_get? rfl hobjects]
    rfl
  finite j r h := by
    change ofJson? j = some r at h
    simp only [ofJson?, Option.bind_eq_bind, Option.bind_eq_some_iff, Option.pure_def,
      Option.some.injEq] at h
    obtain ⟨fields, -, ok, -, error, -, objects, hobjects, rfl⟩ := h
    obtain ⟨i, hi⟩ := Record.exists_of_required hobjects
    exact MapObject.lawful.finite_list hi
  whole j r h := by
    change ofJson? j = some r at h
    simp only [ofJson?, Option.bind_eq_bind, Option.bind_eq_some_iff, Option.pure_def,
      Option.some.injEq] at h
    obtain ⟨fields, -, ok, -, error, -, objects, hobjects, rfl⟩ := h
    obtain ⟨i, hi⟩ := Record.exists_of_required hobjects
    rw [sent, MapObject.lawful.whole_list hi]

end ScanReply

/-! ## Map payloads -/

namespace WildPokemon

def floats (p : WildPokemon) : List Binary64 := [p.latitude, p.longitude]

theorem lawful : Lawful WildPokemon floats (fun p => p) where
  writable p := by
    apply IsWritable.fields
    simp [isWritable_nat, isWritable_int, isWritable_float, IsWritable.text]
  restored p hfinite := by
    obtain ⟨hlatitude, hlongitude⟩ := allFinite_pair.mp hfinite
    change ofJson? p.toJson = some p
    rw [ofJson?, toJson, record?_fields (by simp [fieldNames]) (by simp), Option.bind_eq_bind,
      Option.bind_some, Record.required_of_get? rfl (uint64?_nat p.encounterId),
      Record.required_of_get? rfl (uint32?_nat p.pokemonId),
      Record.required_of_get? rfl (float?_float hlatitude),
      Record.required_of_get? rfl (float?_float hlongitude),
      Record.required_of_get? rfl (int64?_int p.timeTillHiddenMs)]
    rfl
  finite j p h := by
    change ofJson? j = some p at h
    simp only [ofJson?, Option.bind_eq_bind, Option.bind_eq_some_iff, Option.pure_def,
      Option.some.injEq] at h
    obtain ⟨r, -, _, -, _, -, _, -, latitude, hlatitude, longitude, hlongitude, _, -, rfl⟩ := h
    exact allFinite_pair.mpr
      ⟨Record.isFinite_of_required hlatitude, Record.isFinite_of_required hlongitude⟩
  whole _ _ _ := rfl

end WildPokemon

namespace Lure

theorem lawful : Lawful Lure (fun _ => []) (fun l => l) := by
  refine .plain (fun l => ?_) (fun l => ?_)
  · apply IsWritable.fields
    simp [isWritable_nat, isWritable_int]
  · change ofJson? l.toJson = some l
    rw [ofJson?, toJson, record?_fields (by simp [fieldNames]) (by simp), Option.bind_eq_bind,
      Option.bind_some, Record.required_of_get? rfl (uint64?_nat l.encounterId),
      Record.required_of_get? rfl (uint32?_nat l.activePokemonId),
      Record.required_of_get? rfl (int64?_int l.expiresMs)]
    rfl

end Lure

namespace Fort

def floats (f : Fort) : List Binary64 := [f.latitude, f.longitude]

/-- No lure is written as `null`, which no lure is written as. -/
theorem option?_lure (lure : Option Lure) :
    option? Lure.ofJson? (match lure with | none => .null | some l => l.toJson) = some lure := by
  cases lure with
  | none => rfl
  | some l => exact option?_of_ne_null (Lure.lawful.restored l (by simp [AllFinite])) nofun

theorem ofJson?_kind (k : FortKind) : FortKind.ofJson? k.toJson = some k := by
  cases k <;> rfl

theorem lawful : Lawful Fort floats (fun f => f) where
  writable f := by
    apply IsWritable.fields
    simp only [List.forall_mem_cons]
    refine ⟨.text f.id, .text f.kind.name, isWritable_float f.latitude,
      isWritable_float f.longitude, ?_, .bool f.activeModifier, isWritable_nat _, by simp⟩
    cases f.lure with
    | none => exact .null
    | some l => exact Lure.lawful.writable l
  restored f hfinite := by
    obtain ⟨hlatitude, hlongitude⟩ := allFinite_pair.mp hfinite
    change ofJson? f.toJson = some f
    rw [ofJson?, toJson, record?_fields (by simp [fieldNames]) (by simp), Option.bind_eq_bind,
      Option.bind_some, Record.required_of_get? rfl (text?_text f.id),
      Record.required_of_get? rfl (ofJson?_kind f.kind),
      Record.required_of_get? rfl (float?_float hlatitude),
      Record.required_of_get? rfl (float?_float hlongitude),
      Record.optional_of_get? rfl (option?_lure f.lure),
      Record.optional_of_get? rfl (uint32?_nat f.ownedByTeam)]
    rfl
  finite j f h := by
    change ofJson? j = some f at h
    simp only [ofJson?, Option.bind_eq_bind, Option.bind_eq_some_iff, Option.pure_def,
      Option.some.injEq] at h
    obtain ⟨r, -, _, -, _, -, latitude, hlatitude, longitude, hlongitude, h⟩ := h
    obtain ⟨_, -, _, -, _, -, rfl⟩ := h
    exact allFinite_pair.mpr
      ⟨Record.isFinite_of_required hlatitude, Record.isFinite_of_required hlongitude⟩
  whole _ _ _ := rfl

end Fort

namespace MapCell

def floats (c : MapCell) : List Binary64 :=
  c.wildPokemon.flatMap WildPokemon.floats ++ c.forts.flatMap Fort.floats

theorem lawful : Lawful MapCell floats (fun c => c) where
  writable c := by
    apply IsWritable.fields
    simp only [List.forall_mem_cons]
    exact ⟨WildPokemon.lawful.isWritable_list c.wildPokemon, Fort.lawful.isWritable_list c.forts,
      by simp⟩
  restored c hfinite := by
    obtain ⟨hwild, hforts⟩ := allFinite_append.mp hfinite
    have hwild' : Json.list? WildPokemon.ofJson? (.array (c.wildPokemon.map WildPokemon.toJson)) =
        some (c.wildPokemon.map fun p => p) := WildPokemon.lawful.list?_array hwild
    have hforts' : Json.list? Fort.ofJson? (.array (c.forts.map Fort.toJson)) =
        some (c.forts.map fun f => f) := Fort.lawful.list?_array hforts
    rw [List.map_id'] at hwild' hforts'
    change ofJson? c.toJson = some c
    rw [ofJson?, toJson, record?_fields (by simp [fieldNames]) (by simp), Option.bind_eq_bind,
      Option.bind_some, Record.optional_of_get? rfl hwild', Record.optional_of_get? rfl hforts']
    rfl
  finite j c h := by
    change ofJson? j = some c at h
    simp only [ofJson?, Option.bind_eq_bind, Option.bind_eq_some_iff, Option.pure_def,
      Option.some.injEq] at h
    obtain ⟨r, -, wild, hwild, forts, hforts, rfl⟩ := h
    exact allFinite_append.mpr
      ⟨WildPokemon.lawful.finite_optional hwild, Fort.lawful.finite_optional hforts⟩
  whole _ _ _ := rfl

end MapCell

namespace MapPayload

def floats (p : MapPayload) : List Binary64 := p.cells.flatMap MapCell.floats

theorem lawful : Lawful MapPayload floats (fun p => p) where
  writable p := by
    apply IsWritable.fields
    simp only [List.forall_mem_cons]
    exact ⟨MapCell.lawful.isWritable_list p.cells, by simp⟩
  restored p hfinite := by
    have hcells : Json.list? MapCell.ofJson? (.array (p.cells.map MapCell.toJson)) =
        some (p.cells.map fun c => c) := MapCell.lawful.list?_array hfinite
    rw [List.map_id'] at hcells
    change ofJson? p.toJson = some p
    rw [ofJson?, toJson, record?_fields (by simp [fieldNames]) (by simp), Option.bind_eq_bind,
      Option.bind_some, Record.optional_of_get? rfl hcells]
    rfl
  finite j p h := by
    change ofJson? j = some p at h
    simp only [ofJson?, Option.bind_eq_bind, Option.bind_eq_some_iff, Option.pure_def,
      Option.some.injEq] at h
    obtain ⟨r, -, cells, hcells, rfl⟩ := h
    exact MapCell.lawful.finite_optional hcells
  whole _ _ _ := rfl

end MapPayload

/-! ## All of them -/

/-- Whatever is written with finite numbers is read as it was, and whatever has been read is written
so that it is read as the same value again. -/
theorem records_round_trip :
    RoundTrips Account (fun _ => []) (fun a => a) ∧
    RoundTrips Proxy (fun _ => []) (fun p => p) ∧
    RoundTrips Binding (fun _ => []) (fun b => b) ∧
    RoundTrips Place Place.floats (fun p => p) ∧
    RoundTrips ObjectKind (fun _ => []) (fun k => k) ∧
    RoundTrips MapObject MapObject.floats MapObject.sent ∧
    RoundTrips ScanReply ScanReply.floats ScanReply.sent ∧
    RoundTrips MapPayload MapPayload.floats (fun p => p) ∧
    RoundTrips MapCell MapCell.floats (fun c => c) ∧
    RoundTrips WildPokemon WildPokemon.floats (fun p => p) ∧
    RoundTrips Fort Fort.floats (fun f => f) ∧
    RoundTrips Lure (fun _ => []) (fun l => l) ∧
    RoundTrips Metrics (fun _ => []) (fun m => m) ∧
    RoundTrips StatusReport (fun _ => []) (fun s => s) :=
  ⟨Account.lawful.roundTrips, Proxy.lawful.roundTrips, Binding.lawful.roundTrips,
    Place.lawful.roundTrips, ObjectKind.lawful.roundTrips, MapObject.lawful.roundTrips,
    ScanReply.lawful.roundTrips, MapPayload.lawful.roundTrips, MapCell.lawful.roundTrips,
    WildPokemon.lawful.roundTrips, Fort.lawful.roundTrips, Lure.lawful.roundTrips,
    Metrics.lawful.roundTrips, StatusReport.lawful.roundTrips⟩

end MapScout
