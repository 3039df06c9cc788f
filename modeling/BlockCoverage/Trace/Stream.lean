import BlockCoverage.Files.Cause
import BlockCoverage.Text.Utf8

/-!
# Streams

A trace arrives piece by piece: every delivery brings at least one octet or is interrupted and has
to be asked for again. After the last delivery the stream either ends or fails. Deliveries are data,
so what does and does not depend on them can be stated: `Stream.take` gathers an exact number of
octets across deliveries.
-/

namespace BlockCoverage

open Text (Bytes)

/-- What one request for octets meets. -/
inductive Delivery where
  /-- One or more octets. -/
  | chunk (head : UInt8) (tail : Bytes)
  /-- Nothing this time. -/
  | interrupted
deriving DecidableEq, Repr

namespace Delivery

/-- The octets that a delivery brings. -/
def bytes : Delivery → Bytes
  | chunk head tail => head :: tail
  | interrupted => []

/-- A delivery of the given octets, if there are any. -/
def ofBytes : Bytes → List Delivery
  | [] => []
  | head :: tail => [.chunk head tail]

/-- Deliveries of the given octets, `size + 1` at a time; the last one brings what is left. -/
def pieces (size : Nat) : Bytes → List Delivery
  | [] => []
  | head :: tail => .chunk head (tail.take size) :: pieces size (tail.drop size)
termination_by s => s.length
decreasing_by
  rw [List.length_drop, List.length_cons]
  omega

end Delivery

/-- Deliveries, and what comes after the last of them. -/
structure Stream where
  /-- What is delivered, in order. -/
  deliveries : List Delivery
  /-- The failure after the last delivery; `none` is a proper end. -/
  failure : Option IoCause
deriving DecidableEq, Repr

namespace Stream

/-- A stream that holds octets in memory. -/
def ofBytes (s : Bytes) : Stream := ⟨Delivery.ofBytes s, none⟩

/-- A stream that reads octets through a buffer of 8192. -/
def buffered (s : Bytes) : Stream := ⟨Delivery.pieces 8191 s, none⟩

/-- All octets that the stream delivers. -/
def content (s : Stream) : Bytes := s.deliveries.flatMap Delivery.bytes

/-- Gathers `n` octets from deliveries: `none` if the stream ends first, a cause if it fails
first. -/
def gather (failure : Option IoCause) :
    List Delivery → Nat → Except IoCause (Option Bytes × List Delivery)
  | [], 0 => .ok (some [], [])
  | [], _ + 1 =>
    match failure with
    | none => .ok (none, [])
    | some cause => .error cause
  | d :: ds, 0 => .ok (some [], d :: ds)
  | .interrupted :: ds, n + 1 => gather failure ds (n + 1)
  | .chunk head tail :: ds, n + 1 =>
    match tail.drop n with
    | next :: more => .ok (some (head :: tail.take n), .chunk next more :: ds)
    | [] =>
      match gather failure ds (n - tail.length) with
      | .error cause => .error cause
      | .ok (none, rest) => .ok (none, rest)
      | .ok (some bytes, rest) => .ok (some (head :: tail ++ bytes), rest)

/-- Gathers `n` octets from the front of a stream. -/
def take (s : Stream) (n : Nat) : Except IoCause (Option Bytes × Stream) :=
  match gather s.failure s.deliveries n with
  | .error cause => .error cause
  | .ok (bytes, rest) => .ok (bytes, ⟨rest, s.failure⟩)

theorem length_gather {failure : Option IoCause} {ds rest : List Delivery} {n : Nat} {bytes : Bytes}
    (h : gather failure ds n = .ok (some bytes, rest)) :
    bytes.length = n ∧ (rest.flatMap Delivery.bytes).length + n =
      (ds.flatMap Delivery.bytes).length := by
  induction ds generalizing n bytes rest with
  | nil =>
    cases n with
    | zero =>
      simp only [gather, Except.ok.injEq, Prod.mk.injEq, Option.some.injEq] at h
      simp [← h.1, ← h.2]
    | succ n =>
      cases failure <;> simp [gather] at h
  | cons d ds ih =>
    cases n with
    | zero =>
      simp only [gather, Except.ok.injEq, Prod.mk.injEq, Option.some.injEq] at h
      simp [← h.1, ← h.2]
    | succ n =>
      cases d with
      | interrupted =>
        rw [gather] at h
        simpa [Delivery.bytes] using ih h
      | chunk head tail =>
        rw [gather] at h
        split at h
        · rename_i next more hdrop
          have hlen := congrArg List.length hdrop
          rw [List.length_drop, List.length_cons] at hlen
          simp only [Except.ok.injEq, Prod.mk.injEq, Option.some.injEq] at h
          rw [← h.1, ← h.2]
          simp only [List.length_cons, List.length_take, List.flatMap_cons, Delivery.bytes,
            List.length_append]
          omega
        · rename_i hdrop
          have hlen := congrArg List.length hdrop
          rw [List.length_drop, List.length_nil] at hlen
          split at h
          · simp at h
          · simp at h
          · rename_i hg
            obtain ⟨h1, h2⟩ := ih hg
            simp only [Except.ok.injEq, Prod.mk.injEq, Option.some.injEq] at h
            rw [← h.1, ← h.2]
            simp only [List.length_cons, List.length_append, List.flatMap_cons, Delivery.bytes]
            omega

theorem length_take {s t : Stream} {n : Nat} {bytes : Bytes} (h : s.take n = .ok (some bytes, t)) :
    bytes.length = n ∧ t.content.length + n = s.content.length := by
  unfold take at h
  split at h
  · simp at h
  · rename_i hg
    simp only [Except.ok.injEq, Prod.mk.injEq] at h
    obtain ⟨rfl, rfl⟩ := h
    exact length_gather hg

end Stream

end BlockCoverage
