import Mathlib.Data.List.Basic

/-! # Streams of messages

A framing reads one message off the front of a stream, or says how many bytes it has
to see before it can decide anything more. Reading the whole stream message by
message does not depend on where the stream is cut.
-/

namespace Foundation

/-- What the front of a stream is. -/
inductive Parsed (μ β : Type) where
  | incomplete (needed : Nat)
  | malformed
  | message (message : μ) (rest : List β)
  deriving DecidableEq, Repr

/-- A parser of one message whose verdict no further bytes can change. -/
structure Framing (μ β : Type) where
  parse : List β → Parsed μ β
  needed_gt : ∀ {stream needed}, parse stream = .incomplete needed → stream.length < needed
  incomplete_append : ∀ {stream needed} (more : List β), parse stream = .incomplete needed →
    (stream ++ more).length < needed → parse (stream ++ more) = .incomplete needed
  malformed_append : ∀ {stream} (more : List β), parse stream = .malformed →
    parse (stream ++ more) = .malformed
  message_append : ∀ {stream message rest} (more : List β),
    parse stream = .message message rest → parse (stream ++ more) = .message message (rest ++ more)
  message_shorter : ∀ {stream message rest},
    parse stream = .message message rest → rest.length < stream.length

/-- A stream read message by message: the messages, what is left, and whether that is
malformed or only incomplete. -/
structure Reading (μ β : Type) where
  messages : List μ
  rest : List β
  broken : Bool
  deriving DecidableEq, Repr

namespace Framing

variable {μ β : Type} (framing : Framing μ β)

/-- At most `fuel` messages of a stream. -/
def readUpTo : Nat → List β → Reading μ β
  | 0, stream => ⟨[], stream, false⟩
  | fuel + 1, stream =>
      match framing.parse stream with
      | .incomplete _ => ⟨[], stream, false⟩
      | .malformed => ⟨[], stream, true⟩
      | .message message rest =>
          let reading := readUpTo fuel rest
          { reading with messages := message :: reading.messages }

/-- All messages of a stream; each takes at least one byte. -/
def read (stream : List β) : Reading μ β := framing.readUpTo (stream.length + 1) stream

variable {framing}

/-- More fuel than bytes does not matter. -/
theorem readUpTo_eq_read {fuel : Nat} {stream : List β} (enough : stream.length < fuel) :
    framing.readUpTo fuel stream = framing.read stream := by
  suffices same : ∀ (bound : Nat) (stream : List β) (left right : Nat), stream.length ≤ bound →
      stream.length < left → stream.length < right →
      framing.readUpTo left stream = framing.readUpTo right stream from
    same stream.length stream fuel (stream.length + 1) (Nat.le_refl _) enough (Nat.lt_succ_self _)
  intro bound
  induction bound with
  | zero =>
      intro stream left right short leftEnough rightEnough
      obtain ⟨left, rfl⟩ := Nat.exists_eq_succ_of_ne_zero (Nat.ne_zero_of_lt leftEnough)
      obtain ⟨right, rfl⟩ := Nat.exists_eq_succ_of_ne_zero (Nat.ne_zero_of_lt rightEnough)
      unfold readUpTo
      split
      · rfl
      · rfl
      · rename_i parsed
        have shorter := framing.message_shorter parsed
        omega
  | succ bound ih =>
      intro stream left right short leftEnough rightEnough
      obtain ⟨left, rfl⟩ := Nat.exists_eq_succ_of_ne_zero (Nat.ne_zero_of_lt leftEnough)
      obtain ⟨right, rfl⟩ := Nat.exists_eq_succ_of_ne_zero (Nat.ne_zero_of_lt rightEnough)
      unfold readUpTo
      split
      · rfl
      · rfl
      · rename_i message rest parsed
        have shorter := framing.message_shorter parsed
        rw [ih rest left right (by omega) (by omega) (by omega)]

theorem read_incomplete {stream : List β} {needed : Nat}
    (parsed : framing.parse stream = .incomplete needed) :
    framing.read stream = ⟨[], stream, false⟩ := by
  simp only [read, readUpTo, parsed]

theorem read_malformed {stream : List β} (parsed : framing.parse stream = .malformed) :
    framing.read stream = ⟨[], stream, true⟩ := by
  simp only [read, readUpTo, parsed]

theorem read_message {stream rest : List β} {message : μ}
    (parsed : framing.parse stream = .message message rest) :
    framing.read stream =
      { framing.read rest with messages := message :: (framing.read rest).messages } := by
  have shorter := framing.message_shorter parsed
  have same : framing.readUpTo stream.length rest = framing.read rest :=
    readUpTo_eq_read shorter
  rw [read]
  simp only [readUpTo, parsed, same]

/-- Reading is independent of where the stream is cut: the second part is read behind
what the first left over, unless the first is already broken. -/
theorem read_append (first second : List β) :
    framing.read (first ++ second) =
      if (framing.read first).broken then
        ⟨(framing.read first).messages, (framing.read first).rest ++ second, true⟩
      else
        { framing.read ((framing.read first).rest ++ second) with
          messages := (framing.read first).messages ++
            (framing.read ((framing.read first).rest ++ second)).messages } := by
  induction length : first.length using Nat.strongRecOn generalizing first with
  | _ size ih =>
      cases parsed : framing.parse first with
      | incomplete needed =>
          rw [read_incomplete parsed]
          simp only [Bool.false_eq_true, ↓reduceIte, List.nil_append]
      | malformed =>
          rw [read_malformed parsed, read_malformed (framing.malformed_append second parsed)]
          simp only [↓reduceIte]
      | message message rest =>
          have shorter := framing.message_shorter parsed
          rw [read_message parsed, read_message (framing.message_append second parsed),
            ih rest.length (length ▸ shorter) rest rfl]
          split
          · rfl
          · simp only [List.cons_append]

/-- What follows only adds messages. -/
theorem messages_prefix {first whole : List β} (front : first <+: whole) :
    (framing.read first).messages <+: (framing.read whole).messages := by
  obtain ⟨second, rfl⟩ := front
  rw [read_append]
  split
  · exact List.prefix_rfl
  · exact List.prefix_append _ _

/-- Encoded messages one behind the other are read as these messages. -/
theorem messages_encoded {ι : Type} {encode : ι → List β} {view : ι → μ} {items : List ι}
    (each : ∀ item ∈ items, framing.parse (encode item) = .message (view item) []) :
    (framing.read (items.flatMap encode)).messages = items.map view := by
  induction items with
  | nil =>
      cases parsed : framing.parse [] with
      | incomplete needed =>
          rw [List.flatMap_nil, read_incomplete parsed]
          rfl
      | malformed =>
          rw [List.flatMap_nil, read_malformed parsed]
          rfl
      | message message rest => exact absurd (framing.message_shorter parsed) (Nat.not_lt_zero _)
  | cons item rest ih =>
      have first := framing.message_append (rest.flatMap encode) (each item List.mem_cons_self)
      rw [List.flatMap_cons, read_message first, List.map_cons, List.nil_append,
        ih fun other member => each other (List.mem_cons_of_mem item member)]

/-- A stream without messages is its own rest. -/
theorem rest_of_messages_nil {stream : List β} (none : (framing.read stream).messages = []) :
    (framing.read stream).rest = stream := by
  cases parsed : framing.parse stream with
  | incomplete needed => rw [read_incomplete parsed]
  | malformed => rw [read_malformed parsed]
  | message message rest =>
      rw [read_message parsed] at none
      cases none

/-- A stream that is read as one message is that message. -/
theorem parse_of_read {stream : List β} {message : μ}
    (reading : framing.read stream = ⟨[message], [], false⟩) :
    framing.parse stream = .message message [] := by
  cases parsed : framing.parse stream with
  | incomplete needed =>
      rw [read_incomplete parsed] at reading
      cases reading
  | malformed =>
      rw [read_malformed parsed] at reading
      cases reading
  | message first rest =>
      rw [read_message parsed, Reading.mk.injEq, List.cons.injEq] at reading
      obtain ⟨⟨rfl, none⟩, nothing, -⟩ := reading
      rw [rest_of_messages_nil none] at nothing
      rw [nothing]

/-- A stream that is broken before its first message is malformed. -/
theorem parse_of_broken {stream : List β} (none : (framing.read stream).messages = [])
    (broken : (framing.read stream).broken = true) : framing.parse stream = .malformed := by
  cases parsed : framing.parse stream with
  | incomplete needed =>
      rw [read_incomplete parsed] at broken
      cases broken
  | malformed => rfl
  | message message rest =>
      rw [read_message parsed] at none
      cases none

end Framing

end Foundation
