import ChallengeLogin.Patch

namespace ChallengeLogin

open ChallengeLogin.Text

-- The text that shows a patch
def Patch.shown (patch : Patch) : String :=
  "[" ++ patch.selector ++ "] (innerHTML) " ++ patch.html ++ "\n"

-- The bytes of the lines of patches, one after another
def Patch.shownAll (patches : List Patch) : Bytes :=
  patches.flatMap fun patch => Utf8.bytesOf patch.shown

namespace Sink

-- A sink has been offered bytes: it has kept as many of them, from the first one on, as there was
-- room for at the start.
structure Keeps (start : Sink) (offered : Bytes) (sink : Sink) : Prop where
  room : sink.room = start.room.map (· - offered.length)
  written : sink.written = start.written ++ start.room.elim offered offered.take

-- More bytes have been offered to a sink than it had room for.
def IsFull (start : Sink) (offered : Bytes) : Prop :=
  ∃ room, start.room = some room ∧ room < offered.length

section Pieces

variable {start sink other : Sink} {offered piece : Bytes} {pieces : List Bytes}

theorem keeps_nothing (start : Sink) : start.Keeps [] start := by
  obtain ⟨room, written⟩ := start
  cases room with
  | none => exact ⟨rfl, (List.append_nil _).symm⟩
  | some room =>
    refine ⟨rfl, ?_⟩
    show written = written ++ List.take room []
    rw [List.take_nil, List.append_nil]

theorem Keeps.unique (h : start.Keeps offered sink) (hother : start.Keeps offered other) :
    other = sink := by
  have hroom : other.room = sink.room := hother.room.trans h.room.symm
  have hwritten : other.written = sink.written := hother.written.trans h.written.symm
  cases sink
  cases other
  cases hroom
  cases hwritten
  rfl

theorem IsFull.append (h : start.IsFull offered) (more : Bytes) :
    start.IsFull (offered ++ more) := by
  obtain ⟨room, hroom, hless⟩ := h
  refine ⟨room, hroom, ?_⟩
  rw [List.length_append]
  omega

-- Nothing more is kept once the room is used up.
theorem Keeps.append_of_isFull (h : start.Keeps offered sink) (hfull : start.IsFull offered)
    (more : Bytes) : start.Keeps (offered ++ more) sink := by
  obtain ⟨room, hstart, hless⟩ := hfull
  obtain ⟨hroom, hwritten⟩ := h
  rw [hstart] at hroom hwritten
  constructor
  · rw [hstart, hroom]
    show some (room - offered.length) = some (room - (offered ++ more).length)
    rw [List.length_append]
    congr 1
    omega
  · rw [hstart, hwritten]
    show start.written ++ offered.take room = start.written ++ (offered ++ more).take room
    rw [List.take_append_of_le_length (by omega)]

theorem Keeps.write (h : start.Keeps offered sink) (piece : Bytes) :
    start.Keeps (offered ++ piece) (sink.write piece).1 ∧
      ((sink.write piece).2 = false → start.IsFull (offered ++ piece)) := by
  obtain ⟨hroom, hwritten⟩ := h
  cases hstart : start.room with
  | none =>
    rw [hstart] at hroom hwritten
    have hwrite : sink.write piece = ({ sink with written := sink.written ++ piece }, true) := by
      simp only [Sink.write, hroom, Option.map_none]
    rw [hwrite]
    refine ⟨⟨?_, ?_⟩, nofun⟩
    · rw [hstart, hroom]
      rfl
    · rw [hstart, hwritten]
      exact List.append_assoc _ _ _
  | some room =>
    rw [hstart] at hroom hwritten
    have hwrite : sink.write piece =
        (⟨some (room - offered.length - piece.length),
          sink.written ++ piece.take (room - offered.length)⟩,
          decide (piece.length ≤ room - offered.length)) := by
      simp only [Sink.write, hroom, Option.map_some]
    rw [hwrite]
    refine ⟨⟨?_, ?_⟩, fun hcut => ⟨room, hstart, ?_⟩⟩
    · show _ = start.room.map (· - (offered ++ piece).length)
      rw [hstart, Option.map_some, List.length_append, Nat.sub_sub]
    · show sink.written ++ _ = start.written ++ start.room.elim (offered ++ piece) _
      rw [hstart, hwritten, Option.elim_some, Option.elim_some, List.take_append,
        List.append_assoc]
    · have hshort := of_decide_eq_false hcut
      rw [List.length_append]
      omega

-- By induction on the pieces. Behind the first one that is cut the room is used up, so that leaving
-- out the others is as good as offering them.
theorem Keeps.writeAll (h : start.Keeps offered sink) (pieces : List Bytes) :
    start.Keeps (offered ++ pieces.flatten) (sink.writeAll pieces).1 ∧
      ((sink.writeAll pieces).2 = false → start.IsFull (offered ++ pieces.flatten)) := by
  induction pieces generalizing sink offered with
  | nil =>
    rw [List.flatten_nil, List.append_nil]
    exact ⟨h, nofun⟩
  | cons piece pieces ih =>
    obtain ⟨hnext, hcut⟩ := h.write piece
    rw [List.flatten_cons, ← List.append_assoc, Sink.writeAll]
    split
    · rename_i next hwrite
      rw [hwrite] at hnext
      exact ih hnext
    · rename_i next hwrite
      rw [hwrite] at hnext hcut
      have hfull := hcut rfl
      exact ⟨hnext.append_of_isFull hfull _, fun _ => hfull.append _⟩

end Pieces

section Lines

variable {start sink : Sink} {offered : Bytes} {patch : Patch}

-- The pieces of a line come to the line.
theorem flatten_pieces (patch : Patch) :
    (patch.pieces.map Utf8.bytesOf).flatten = Utf8.bytesOf patch.shown := by
  have hstyle : "] (innerHTML) ".toList = "] (".toList ++ Patch.style.toList ++ ") ".toList := rfl
  simp only [Patch.pieces, Patch.shown, Utf8.bytesOf, List.map_cons, List.map_nil,
    List.flatten_cons, List.flatten_nil, String.toList_append, Utf8.encode_append, hstyle,
    List.append_assoc, List.append_nil]

theorem Keeps.put (h : start.Keeps offered sink) (patch : Patch) :
    start.Keeps (offered ++ Utf8.bytesOf patch.shown) (sink.put patch).1 ∧
      ((sink.put patch).2 = false → start.IsFull (offered ++ Utf8.bytesOf patch.shown)) := by
  rw [← flatten_pieces]
  exact h.writeAll _

theorem putAll_append (sink : Sink) (front rest : List Patch) :
    sink.putAll (front ++ rest) = (sink.putAll front).putAll rest :=
  List.foldl_append

theorem shownAll_cons (patch : Patch) (patches : List Patch) :
    Patch.shownAll (patch :: patches) = Utf8.bytesOf patch.shown ++ Patch.shownAll patches :=
  List.flatMap_cons

-- By induction on the patches, each of which is tried whatever became of those before
theorem Keeps.putAll (h : start.Keeps offered sink) (patches : List Patch) :
    start.Keeps (offered ++ Patch.shownAll patches) (sink.putAll patches) := by
  induction patches generalizing sink offered with
  | nil => exact (List.append_nil offered).symm ▸ h
  | cons patch patches ih =>
    rw [shownAll_cons, ← List.append_assoc]
    exact ih (h.put patch).1

-- Nothing is written behind a line that has been cut.
theorem putAll_of_isFull (h : start.Keeps offered sink) (hfull : start.IsFull offered)
    (patches : List Patch) : sink.putAll patches = sink :=
  (h.append_of_isFull hfull _).unique (h.putAll patches)

end Lines

-- A sink without a limit has the lines of all patches one after another, and one with a limit has
-- exactly the first bytes of these: behind a line that is cut nothing is written.
theorem putAll_keeps_first_bytes (limit : Nat) (patches : List Patch) :
    (putAll {} patches).written = Patch.shownAll patches ∧
      (putAll { room := some limit } patches).written =
        (Patch.shownAll patches).take (min limit (Patch.shownAll patches).length) ∧
      ∀ front patch rest,
        ((putAll { room := some limit } front).put patch).2 = true ∨
          putAll { room := some limit } (front ++ patch :: rest) =
            ((putAll { room := some limit } front).put patch).1 := by
  have hall := (keeps_nothing {}).putAll patches
  have hfirst := (keeps_nothing { room := some limit }).putAll patches
  refine ⟨hall.written, ?_, fun front patch rest => ?_⟩
  · rw [hfirst.written, ← List.take_eq_take_min]
    rfl
  · obtain ⟨hline, hcut⟩ :=
      ((keeps_nothing { room := some limit }).putAll front).put patch
    cases hwhole : ((putAll { room := some limit } front).put patch).2 with
    | true => exact .inl rfl
    | false =>
      refine .inr ?_
      rw [putAll_append]
      exact putAll_of_isFull hline (hcut hwhole) rest

-- The second line is cut in front of its text.
example : (putAll { room := some 38 } [⟨"#a", "one"⟩, ⟨"#b", "two"⟩]).text =
    "[#a] (innerHTML) one\n[#b] (innerHTML) " := by
  decide +kernel

end Sink

end ChallengeLogin
