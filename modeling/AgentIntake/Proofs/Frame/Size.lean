import AgentIntake.Proofs.Frame.Stream
import Mathlib.Data.Nat.Digits.Defs

/-!
# How long lines are

The bound on a line is for those who read.  Here it is said how long the lines are that frames are
written on, so that the two can be compared.

A payload is twice as long on its line as it is, and all else on the line is short: the names, the
punctuation and an identifier of at most twenty digits.  Requests and responses are laid out alike
and differ in the name of their kind, which is one byte longer for a response
(`length_toLine_response_eq`).

`ofStream_toLine` says what becomes of a line by its length: it is read as its frame, or as nothing
but too long.
-/

namespace AgentIntake

namespace Json

/-! ## 1.  Texts -/

/-- A string without escapes is as long as it is, and its quotes. -/
theorem length_renderString {s : String} (h : ∀ c ∈ s.toList, (escape c).length = 1) :
    (renderString s).length = s.toList.length + 2 := by
  have hsum : (s.toList.flatMap escape).length = s.toList.length := by
    rw [List.length_flatMap, List.map_congr_left h, List.map_const', List.sum_replicate_nat,
      Nat.mul_one]
  rw [renderString, List.length_cons, List.length_append, hsum, List.length_singleton]

theorem length_escape_digit : ∀ n < 16, (escape (Hex.digit n)).length = 1 := by
  decide

/-- Hexadecimal digits need no escape, and there are two of them to a byte. -/
theorem length_renderString_encode (bytes : List UInt8) :
    (renderString (Hex.encode bytes)).length = 2 * bytes.length + 2 := by
  have hlist : (Hex.encode bytes).toList =
      bytes.flatMap fun b => [Hex.digit (b.toNat / 16), Hex.digit (b.toNat % 16)] :=
    String.toList_ofList
  rw [length_renderString, hlist, List.length_flatMap]
  · show (bytes.map fun _ => 2).sum + 2 = _
    rw [List.map_const', List.sum_replicate_nat, Nat.mul_comm]
  · intro c hc
    rw [hlist] at hc
    obtain ⟨b, -, hd⟩ := List.mem_flatMap.1 hc
    have hb := b.toNat_lt
    simp only [List.mem_cons, List.not_mem_nil, or_false] at hd
    rcases hd with rfl | rfl <;> exact length_escape_digit _ (by omega)

theorem length_renderNat (n : Nat) : (renderNat n).length = (Nat.toDigits 10 n).length :=
  List.length_map _

theorem length_renderInt_le {n : Int} {digits : Nat} (hd : 0 < digits)
    (h : n.natAbs < 10 ^ digits) : (renderInt n).length ≤ digits + 1 := by
  have hl := Nat.toDigits_length 10 n.natAbs digits hd h
  rw [← length_renderNat] at hl
  unfold renderInt
  split
  · exact Nat.succ_le_succ hl
  · exact Nat.le_succ_of_le hl

theorem length_renderMembers_nil : (renderMembers []).length = 1 :=
  rfl

theorem length_renderMembers_cons (key : String) (value : Json) (rest : List (String × Json)) :
    (renderMembers ((key, value) :: rest)).length =
      2 + (renderString key).length + value.render.length + (renderMembers rest).length := by
  rw [renderMembers, List.length_cons, List.length_append, List.length_cons, List.length_append]
  omega

end Json

namespace Frame

/-! ## 2.  Lines -/

/-- The digits of an identifier. -/
def digitsOf (id : UInt64) : Nat :=
  (Nat.toDigits 10 id.toNat).length

theorem length_render_id (id : UInt64) : (idJson id).render.length = digitsOf id := by
  have hn : ¬((id.toNat : Int) < 0) := Int.not_lt.2 (Int.natCast_nonneg _)
  show (Json.renderInt id.toNat).length = _
  rw [Json.renderInt, if_neg hn, Int.natAbs_natCast, Json.length_renderNat]
  rfl

theorem length_render_payload (payload : List UInt8) :
    (payloadJson payload).render.length = 2 * payload.length + 2 :=
  Json.length_renderString_encode payload

/-- Punctuation and the name of the kind, and the members after it. -/
theorem length_toLine_eq (f : Frame) :
    f.toLine.length =
      9 + (Json.renderString f.kind.wire).length + (Json.renderMembers f.members).length := by
  have hkind : (Json.renderString "kind").length = 6 := by decide
  rw [toLine, encode, toJson, Json.render, Json.render, List.length_append, List.length_cons,
    List.length_append, List.length_cons, List.length_append, List.length_singleton, hkind]
  omega

theorem length_renderMembers_numbered (id : UInt64) (payload : List UInt8) :
    (Json.renderMembers [("id", idJson id), ("payload", payloadJson payload)]).length =
      20 + digitsOf id + 2 * payload.length := by
  have hid : (Json.renderString "id").length = 4 := by decide
  have hpayload : (Json.renderString "payload").length = 9 := by decide
  rw [Json.length_renderMembers_cons, Json.length_renderMembers_cons, Json.length_renderMembers_nil,
    hid, hpayload, length_render_id, length_render_payload]
  omega

/-- **The line of a request.** -/
theorem length_toLine_request (id : UInt64) (payload : List UInt8) :
    (request id payload).toLine.length = 38 + digitsOf id + 2 * payload.length := by
  have hkind : (Json.renderString Kind.request.wire).length = 9 := by decide
  rw [length_toLine_eq, members, kind, hkind, length_renderMembers_numbered]
  omega

/-- **The line of a response.** -/
theorem length_toLine_response (id : UInt64) (payload : List UInt8) :
    (response id payload).toLine.length = 39 + digitsOf id + 2 * payload.length := by
  have hkind : (Json.renderString Kind.response.wire).length = 10 := by decide
  rw [length_toLine_eq, members, kind, hkind, length_renderMembers_numbered]
  omega

/-- A response is one byte longer than the request with its identifier and its payload. -/
theorem length_toLine_response_eq (id : UInt64) (payload : List UInt8) :
    (response id payload).toLine.length = (request id payload).toLine.length + 1 := by
  rw [length_toLine_response, length_toLine_request]
  omega

/-- That a sign of life was seen is told on a short line. -/
theorem length_toLine_pong_le (id : Int32) : (pong id).toLine.length ≤ lineLimit := by
  have hkind : (Json.renderString Kind.pong.wire).length = 6 := by decide
  have hid : (Json.renderString "id").length = 4 := by decide
  have hl := id.le_toInt
  have hh := id.toInt_lt
  have hn : (counterJson id).render.length ≤ 11 :=
    @Json.length_renderInt_le id.toInt 10 (by decide) (by omega)
  rw [length_toLine_eq, members, kind, hkind, Json.length_renderMembers_cons,
    Json.length_renderMembers_nil, hid, lineLimit]
  omega

/-- And so is a decision. -/
theorem length_toLine_handshakeResponse_le (decision : Decision) :
    (handshakeResponse decision).toLine.length ≤ lineLimit := by
  cases decision <;> decide

/-! ## 3.  What is read from a line -/

/-- **What is read from the line of a frame**, when nothing else comes. -/
theorem ofStream_toLine {f : Frame} (h : f.Plain) :
    Line.ofStream f.toLine = if f.toLine.length ≤ lineLimit then [.frame f] else [.tooLong] := by
  have hn := (printable_encode h).newline_not_mem
  have hs : Line.segments f.toLine = [f.toLine] := by
    have hs := Line.segments_append f.encode [] hn
    rwa [List.append_nil] at hs
  by_cases hl : f.toLine.length ≤ lineLimit
  · rw [if_pos hl, Line.ofStream, hs, Line.ofSegments, if_neg (Nat.not_lt.2 hl), ofBytes?_toLine h]
    rfl
  · rw [if_neg hl]
    exact Line.ofStream_of_length_lt hs (Nat.not_le.1 hl)

end Frame

end AgentIntake
