import OutputArranger.Daemon.Basic
import OutputArranger.Proofs.Json.FloatText
import OutputArranger.Proofs.Json.ReadingBack
import OutputArranger.Proofs.Text.Utf8

/-!
# Requests that arrive

A client writes its request as JSON, and the daemon reads it from the bytes that it gets. It reads
the same request if the text is not too long and if the scale, the only number that can be in it, is
read back from its own text, as every scale of a few digits is. What is too long or is no request is
answered at once and never reaches the session.
-/

namespace OutputArranger

namespace Json

theorem asStrings?_strings (items : List String) :
    (Config.strings items).asStrings? = some items := by
  have hpure : (items.map Json.string).mapM asString? = some items := by
    rw [List.mapM_map]
    exact (List.mapM_pure (f := id)).trans (congrArg some items.map_id)
  exact hpure

theorem asFloat?_float {x : Binary64} (hx : x.isFinite = true) :
    (Json.float x).asFloat? = some x := by
  simp [float, asFloat?, hx]

theorem number_notMem_strings (n : Number) (items : List String) :
    .number n ∉ (Config.strings items).tokens := by
  simp [Config.strings]

end Json

namespace ConfigCommand

/-- The scale that a command carries. -/
def scale? : ConfigCommand → Option Binary64
  | .setScale entry => some entry.scale
  | _ => none

theorem optionOf?_optionName {α : Type} {name : α → String} {ofName? : String → Option α}
    (h : ∀ a, ofName? (name a) = some a) (o : Option α) :
    optionOf? ofName? (optionName (o.map name)) = some o := by
  cases o with
  | none => rfl
  | some a => simp [optionName, Json.optionString, optionOf?, Json.asName?, h]

/-- A command is the one that its JSON value describes. -/
theorem ofJson?_toJson (command : ConfigCommand)
    (hscale : ∀ x, command.scale? = some x → x.isFinite = true) :
    ofJson? command.toJson = some command := by
  cases command with
  | setArrangeAlign arrange align =>
      simp [toJson, ofJson?, Json.asMember?, arrangeAlignOf?, Json.unique?, Json.valuesOf,
        optionOf?_optionName Arrange.ofName?_name, optionOf?_optionName Align.ofName?_name]
  | setOrder patterns => simp [toJson, ofJson?, Json.asMember?, Json.asStrings?_strings]
  | setScale entry =>
      have hfinite := Json.asFloat?_float (hscale _ rfl)
      simp [toJson, ofJson?, Json.asMember?, UserScale.toJson, UserScale.ofJson?, Json.onlyKeys,
        Json.unique?, Json.valuesOf, Json.asString?, hfinite]
  | setTransform entry =>
      simp [toJson, ofJson?, Json.asMember?, UserTransform.toJson, UserTransform.ofJson?,
        UserTransform.transformOf?, Json.onlyKeys, Json.unique?, Json.valuesOf, Json.asString?,
        Json.asName?, Transform.ofName?_name]
  | setThreshold t =>
      simp [toJson, ofJson?, Json.asMember?, Json.asName?, LogThreshold.ofName?_name]
  | _ => simp [toJson, ofJson?, Json.asMember?, Json.asString?, Json.asBool?]

/-- The only number in a command is the scale. -/
theorem eq_scale_of_number_mem {command : ConfigCommand} {n : Json.Number}
    (h : .number n ∈ command.toJson.tokens) : ∃ x, command.scale? = some x ∧ n = .real x := by
  cases command with
  | setScale entry =>
      refine ⟨entry.scale, rfl, Json.eq_real_of_mem_float ?_⟩
      simpa [toJson, UserScale.toJson] using h
  | _ =>
      simp [toJson, UserTransform.toJson, optionName, Json.number_notMem_strings] at h

end ConfigCommand

namespace ControlRequest

/-- The scale that a request carries. -/
def scale? : ControlRequest → Option Binary64
  | .apply command => command.scale?
  | _ => none

theorem ofJson?_toJson (r : ControlRequest) (hscale : ∀ x, r.scale? = some x → x.isFinite = true) :
    ofJson? r.toJson = some r := by
  cases r with
  | apply command =>
      have hcommand := command.ofJson?_toJson hscale
      simp [toJson, ofJson?, Json.unique?, Json.valuesOf, argsComeFirst, Json.asName?, ofParts?,
        hcommand]
  | _ => simp [toJson, ofJson?, Json.unique?, Json.valuesOf, Json.asName?, ofParts?]

theorem eq_scale_of_number_mem {r : ControlRequest} {n : Json.Number}
    (h : .number n ∈ r.toJson.tokens) : ∃ x, r.scale? = some x ∧ n = .real x := by
  cases r with
  | apply command =>
      refine ConfigCommand.eq_scale_of_number_mem ?_
      simpa [toJson] using h
  | _ => simp [toJson] at h

/-- A request is read from the text that is sent for it. -/
theorem parse_text {r : ControlRequest}
    (hscale : ∀ x, r.scale? = some x → x.isFinite = true ∧ (Json.Number.real x).ReadsBack) :
    parse r.text = some r := by
  have hnumbers : ∀ n, .number n ∈ r.toJson.tokens → Json.Number.ReadsBack n := by
    intro n hn
    obtain ⟨x, hx, rfl⟩ := eq_scale_of_number_mem hn
    exact (hscale x hx).2
  rw [parse, text, Json.parse_compact hnumbers]
  exact r.ofJson?_toJson fun x hx => (hscale x hx).1

/-- A request whose scale has a few digits is read from its text. -/
theorem parse_text_of_length_le {r : ControlRequest}
    (hscale : ∀ x, r.scale? = some x →
      x.isFinite = true ∧ x.compact = x.pointed ∧ x.pointed.length ≤ 16) :
    parse r.text = some r := by
  refine parse_text fun x hx => ?_
  obtain ⟨hfinite, hplain, hlength⟩ := hscale x hx
  exact ⟨hfinite, Json.Number.readsBack_of_length_le hfinite hplain hlength⟩

/-! ## Bytes -/

theorem ofBytes_toUTF8 (text : String) : ofBytes text.toUTF8 = parse text := by
  rw [ofBytes, Json.ofBytes, Utf8.pieces_toUTF8]
  rfl

theorem receive_of_sizeLimit_lt {bytes : ByteArray} (h : sizeLimit < bytes.size) :
    receive bytes = .error .tooLarge := if_pos h

theorem receive_of_ofBytes_eq_none {bytes : ByteArray} (hsize : bytes.size ≤ sizeLimit)
    (h : ofBytes bytes = none) : receive bytes = .error .malformed := by
  rw [receive, if_neg (Nat.not_lt.mpr hsize), h]

theorem receive_of_ofBytes_eq_some {bytes : ByteArray} {r : ControlRequest}
    (hsize : bytes.size ≤ sizeLimit) (h : ofBytes bytes = some r) : receive bytes = .ok r := by
  rw [receive, if_neg (Nat.not_lt.mpr hsize), h]

/-- One byte more than is allowed is enough to tell what has been received. -/
theorem receive_extract (bytes : ByteArray) :
    receive (bytes.extract 0 (sizeLimit + 1)) = receive bytes := by
  by_cases hsize : bytes.size ≤ sizeLimit
  · have hall : bytes.extract 0 (sizeLimit + 1) = bytes := by
      apply ByteArray.ext
      rw [ByteArray.data_extract, Array.extract_eq_self_of_le (Nat.le_succ_of_le hsize)]
    rw [hall]
  · have hread : sizeLimit < (bytes.extract 0 (sizeLimit + 1)).size := by
      rw [ByteArray.size_extract]
      omega
    rw [receive_of_sizeLimit_lt hread, receive_of_sizeLimit_lt (Nat.lt_of_not_le hsize)]

end ControlRequest

namespace Daemon

open ControlRequest (sizeLimit receive)

theorem serve_of_receive_eq_ok {bytes : ByteArray} {r : ControlRequest}
    (h : receive bytes = .ok r) (d : Daemon) (client : Ticket) :
    d.serve client bytes = (d.react (.command r (some client)), none) := by
  rw [serve, Event.received, h]
  rfl

/-- Bytes that are not received as a request change nothing but the log, and are answered. -/
theorem serve_of_receive_eq_error {bytes : ByteArray} {f : ReceptionFault}
    (h : receive bytes = .error f) (d : Daemon) (client : Ticket) :
    d.serve client bytes = ({ d.idle with shown := d.shown [f.notice] }, some f.response) := by
  rw [serve, Event.received, h]
  rfl

/-- A request that is within the limit is received as it was sent and handed to the session, and one
that is not is too large, which the first byte past the limit tells. Bytes that are too large or
that are no request are answered with an error, and nothing comes of them but an entry in the
log. -/
theorem requests_arrive (d : Daemon) (client : Ticket) {r : ControlRequest}
    (hscale : ∀ x, r.scale? = some x → x.isFinite = true ∧ (Json.Number.real x).ReadsBack) :
    (r.text.toUTF8.size ≤ sizeLimit →
        receive r.text.toUTF8 = .ok r ∧
          d.serve client r.text.toUTF8 = (d.react (.command r (some client)), none)) ∧
      (sizeLimit < r.text.toUTF8.size → receive r.text.toUTF8 = .error .tooLarge) ∧
      (∀ bytes, receive (bytes.extract 0 (sizeLimit + 1)) = receive bytes) ∧
      ∀ bytes : ByteArray,
        sizeLimit < bytes.size ∨ ControlRequest.ofBytes bytes = none →
          ∃ f : ReceptionFault, (f = .tooLarge ↔ sizeLimit < bytes.size) ∧
            Event.received client bytes = .error f ∧ f.response.isSuccess = false ∧
              d.serve client bytes = (⟨d, [], [], d.shown [f.notice], false⟩, some f.response) := by
  refine ⟨fun hsize => ?_, ControlRequest.receive_of_sizeLimit_lt, ControlRequest.receive_extract,
    fun bytes hbytes => ?_⟩
  · have hread : ControlRequest.ofBytes r.text.toUTF8 = some r := by
      rw [ControlRequest.ofBytes_toUTF8, ControlRequest.parse_text hscale]
    have hreceived := ControlRequest.receive_of_ofBytes_eq_some hsize hread
    exact ⟨hreceived, serve_of_receive_eq_ok hreceived d client⟩
  · have hrefused : ∃ f, (f = .tooLarge ↔ sizeLimit < bytes.size) ∧ receive bytes = .error f := by
      by_cases hsize : sizeLimit < bytes.size
      · exact ⟨.tooLarge, by simp [hsize], ControlRequest.receive_of_sizeLimit_lt hsize⟩
      · have hfault := ControlRequest.receive_of_ofBytes_eq_none (Nat.le_of_not_lt hsize)
          (hbytes.resolve_left hsize)
        exact ⟨.malformed, by simp [hsize], hfault⟩
    obtain ⟨f, hf, hfault⟩ := hrefused
    refine ⟨f, hf, ?_, rfl, serve_of_receive_eq_error hfault d client⟩
    rw [Event.received, hfault]
    rfl

/-- A daemon that has just been started. -/
def started : Daemon :=
  ⟨.start .default ⟨"cfg.toml", true, none⟩ true, ⟨.start, [], [], false, none⟩,
    .ofThreshold .info, false⟩

def oneAndHalf : Binary64 := .nearest false 3 2

theorem ofBinary64_oneAndHalf : Decimal.ofBinary64 oneAndHalf = ⟨false, 15, -1⟩ := by
  have hzero : oneAndHalf.magnitude ≠ 0 := by decide +kernel
  have hlead : Decimal.leadingExponent oneAndHalf.magnitude Binary64.stepsPerOne = 0 := by
    -- Counting digits is done by bounds; there are four hundred of them to write.
    have hcount := Decimal.digitCount_eq (k := 400) (by decide)
      (c := oneAndHalf.magnitude * Nat.pow 10 400 / Binary64.stepsPerOne)
      (by decide +kernel) (by decide +kernel)
    rw [Decimal.leadingExponent, hcount]
    rfl
  rw [Decimal.ofBinary64, if_neg hzero, hlead]
  decide +kernel

theorem pointed_oneAndHalf : oneAndHalf.pointed = "1.5" := by
  rw [Binary64.pointed, ofBinary64_oneAndHalf]
  decide +kernel

theorem compact_oneAndHalf : oneAndHalf.compact = oneAndHalf.pointed := by
  rw [Binary64.compact, Binary64.pointed, ofBinary64_oneAndHalf]
  decide +kernel

/-- One and a half, for a display whose description has to be escaped. -/
def scaled : ControlRequest := .apply (.setScale ⟨"\"DP\\1\"\n\x01é", oneAndHalf⟩)

theorem text_scaled : scaled.text =
    "\x7b\"command\":\"apply\",\"args\":\x7b\"set_scale\":" ++
      "\x7b\"name_desc\":\"\\\"DP\\\\1\\\"\\n\\u0001é\",\"scale\":1.5\x7d\x7d\x7d" := by
  have hfinite : oneAndHalf.isFinite = true := by decide +kernel
  have hnumber : (Json.Number.real oneAndHalf).text = ['1', '.', '5'] := by
    rw [Json.Number.text, if_pos hfinite, compact_oneAndHalf, pointed_oneAndHalf]
    rfl
  simp only [ControlRequest.text, scaled, ControlRequest.toJson, ConfigCommand.toJson,
    UserScale.toJson, Json.float, hfinite, if_true, Json.compact, Json.compactChars, Json.tokens,
    Json.tokensOfMembers, Json.tokensOfMoreMembers, List.cons_append, List.nil_append,
    List.flatMap_cons, List.flatMap_nil, Json.Token.text, hnumber]
  decide +kernel

theorem requests_arrive_scaled :
    scaled.text.toUTF8.size ≤ sizeLimit ∧ receive scaled.text.toUTF8 = .ok scaled ∧
      started.serve 7 scaled.text.toUTF8 = (started.react (.command scaled (some 7)), none) ∧
      ∃ f : ReceptionFault, (f = .tooLarge ↔ sizeLimit < ("?".toUTF8).size) ∧
        Event.received 7 "?".toUTF8 = .error f ∧ f.response.isSuccess = false ∧
          started.serve 7 "?".toUTF8 =
            (⟨started, [], [], started.shown [f.notice], false⟩, some f.response) := by
  have hscale : ∀ x, scaled.scale? = some x →
      x.isFinite = true ∧ (Json.Number.real x).ReadsBack := by
    intro x hx
    obtain rfl := Option.some.inj hx
    have hfinite : oneAndHalf.isFinite = true := by decide +kernel
    have hlength : oneAndHalf.pointed.length ≤ 16 := by
      rw [pointed_oneAndHalf]
      decide
    exact ⟨hfinite, Json.Number.readsBack_of_length_le hfinite compact_oneAndHalf hlength⟩
  have hsize : scaled.text.toUTF8.size ≤ sizeLimit := by
    rw [text_scaled]
    decide +kernel
  obtain ⟨hfits, _, _, hrefused⟩ := requests_arrive started 7 hscale
  obtain ⟨hreceived, hserved⟩ := hfits hsize
  exact ⟨hsize, hreceived, hserved, hrefused "?".toUTF8 (Or.inr (by decide +kernel))⟩

end Daemon

end OutputArranger
