import ProxyGate.Stream.Conservation

/-!
# What a source has to give

A scripted source is known by three things: the bytes that come before the end of its data, how the
data ends, and when everything that ever comes has come.  `Feed` says what these three promise to
whoever reads, without saying how the bytes are cut into pieces, and `feed_read` that scripts keep
the promise.  A proof that uses a source only through `Feed` therefore holds for every cut and for
all delays.

Both a `Feed` and a conservation law make a source that `Yields`, which is all that a search needs in
order to lose nothing.
-/

namespace ProxyGate.Stream

/-- The answer to a read when only the end is left. -/
def Script.Ending.answer {σ : Type} : Script.Ending → Nat → σ → Pull σ
  | .finished, wait, rest => .got wait [] rest
  | .failed reason, wait, rest => .failed wait reason rest
  | .pending, _, _ => .never

namespace Script

/-- The bytes that come before the end of the data. -/
def content : Script → Bytes
  | [] => []
  | .data bytes :: rest => if bytes = [] then [] else bytes ++ content rest
  | .delay _ :: rest => content rest
  | .stall :: _ | .finish :: _ | .failure _ :: _ => []

/-- How the data ends. -/
def ending : Script → Ending
  | [] => .finished
  | .data bytes :: rest => if bytes = [] then .finished else ending rest
  | .delay _ :: rest => ending rest
  | .stall :: _ => .pending
  | .finish :: _ => .finished
  | .failure reason :: _ => .failed reason

/-- When everything that ever comes has come: the bytes and, if there is one, the end. -/
def arrival : Script → Nat
  | [] => 0
  | .data bytes :: rest => if bytes = [] then 0 else arrival rest
  | .delay milliseconds :: rest =>
    if content rest = [] ∧ ending rest = .pending then 0 else milliseconds + arrival rest
  | .stall :: _ | .finish :: _ | .failure _ :: _ => 0

/-- Chunks that each come after a wait, in front of what comes last. -/
def chunked (chunks : List (Nat × Bytes)) (last : Script) : Script :=
  chunks.flatMap (fun chunk => [.delay chunk.1, .data chunk.2]) ++ last

/-! ## Single steps -/

theorem content_data {bytes : Bytes} (hne : bytes ≠ []) (rest : Script) :
    content (.data bytes :: rest) = bytes ++ content rest := by
  rw [content, if_neg hne]

theorem ending_data {bytes : Bytes} (hne : bytes ≠ []) (rest : Script) :
    ending (.data bytes :: rest) = ending rest := by
  rw [ending, if_neg hne]

theorem content_delay (milliseconds : Nat) (rest : Script) :
    content (.delay milliseconds :: rest) = content rest := rfl

theorem ending_delay (milliseconds : Nat) (rest : Script) :
    ending (.delay milliseconds :: rest) = ending rest := rfl

theorem arrival_data {data : Bytes} (hne : data ≠ []) (rest : Script) :
    arrival (.data data :: rest) = arrival rest := by
  rw [arrival, if_neg hne]

theorem content_unread (bytes : Bytes) (rest : Script) :
    content (unread bytes rest) = bytes ++ content rest := by
  by_cases hne : bytes = []
  · simp [unread, hne]
  · rw [unread, if_neg hne, content_data hne]

theorem ending_unread (bytes : Bytes) (rest : Script) :
    ending (unread bytes rest) = ending rest := by
  by_cases hne : bytes = []
  · simp [unread, hne]
  · rw [unread, if_neg hne, ending_data hne]

theorem arrival_unread (bytes : Bytes) (rest : Script) :
    arrival (unread bytes rest) = arrival rest := by
  by_cases hne : bytes = []
  · simp [unread, hne]
  · rw [unread, if_neg hne, arrival_data hne]

end Script

/-! ## The promise of a source -/

/-- A source that has to give `content` and then ends: each read into a buffer with room gives some
of the bytes that are left, and the end once there are none. -/
structure Feed {σ : Type} (reader : Reader σ) (content : σ → Bytes) (ending : σ → Script.Ending)
    (arrival : σ → Nat) : Prop where
  /-- Without bytes left, a read is answered by the end. -/
  ends : ∀ (room : Nat) (source : σ), content source = [] →
    ∃ rest, reader room source = (ending source).answer (arrival source) rest
  /-- With bytes left, a read gives the first of them. -/
  gives : ∀ (room : Nat) (source : σ), 0 < room → content source ≠ [] →
    ∃ wait bytes rest, reader room source = .got wait bytes rest ∧ bytes ≠ [] ∧
      bytes.length ≤ room ∧ content source = bytes ++ content rest ∧ ending rest = ending source ∧
      arrival source = wait + arrival rest

namespace Script

theorem read_of_content_eq_nil (room : Nat) {script : Script} (h : script.content = []) :
    ∃ rest, script.read room = script.ending.answer script.arrival rest := by
  induction script with
  | nil => exact ⟨[], rfl⟩
  | cons step rest ih =>
    cases step with
    | data bytes =>
      by_cases hne : bytes = []
      · subst hne
        exact ⟨rest, by simp [read, unread, ending, arrival, Ending.answer]⟩
      · rw [content_data hne, List.append_eq_nil_iff] at h
        exact absurd h.1 hne
    | delay milliseconds =>
      rw [content_delay] at h
      obtain ⟨last, hread⟩ := ih h
      refine ⟨last, ?_⟩
      rw [read, hread, ending_delay, arrival]
      cases hending : ending rest <;> simp [Ending.answer, Pull.after, h]
    | stall => exact ⟨[], rfl⟩
    | finish => exact ⟨.finish :: rest, rfl⟩
    | failure reason => exact ⟨rest, rfl⟩

theorem read_of_content_ne_nil {room : Nat} (hroom : 0 < room) {script : Script}
    (h : script.content ≠ []) :
    ∃ wait bytes rest, script.read room = .got wait bytes rest ∧ bytes ≠ [] ∧
      bytes.length ≤ room ∧ script.content = bytes ++ rest.content ∧
      rest.ending = script.ending ∧ script.arrival = wait + rest.arrival := by
  induction script with
  | nil => exact absurd rfl h
  | cons step rest ih =>
    cases step with
    | data bytes =>
      by_cases hne : bytes = []
      · subst hne
        exact absurd (by simp [content]) h
      · refine ⟨0, bytes.take room, unread (bytes.drop room) rest, rfl, ?_, ?_, ?_, ?_, ?_⟩
        · simp only [ne_eq, List.take_eq_nil_iff, not_or]
          exact ⟨Nat.ne_of_gt hroom, hne⟩
        · exact List.length_take_le room bytes
        · rw [content_unread, content_data hne, ← List.append_assoc, List.take_append_drop]
        · rw [ending_unread, ending_data hne]
        · rw [arrival_unread, arrival_data hne, Nat.zero_add]
    | delay milliseconds =>
      rw [content_delay] at h
      obtain ⟨wait, bytes, last, hread, hne, hlength, hcontent, hending, harrival⟩ := ih h
      refine ⟨milliseconds + wait, bytes, last, ?_, hne, hlength, hcontent, hending, ?_⟩
      · rw [read, hread, Pull.after]
      · rw [arrival, if_neg (fun hnone => h hnone.1), harrival, Nat.add_assoc]
    | stall => exact absurd rfl h
    | finish => exact absurd rfl h
    | failure reason => exact absurd rfl h

/-- Scripts give what they have to give. -/
theorem feed_read : Feed read content ending arrival where
  ends := fun room _ h => read_of_content_eq_nil room h
  gives := fun _ _ hroom h => read_of_content_ne_nil hroom h

end Script

namespace Duplex

/-- A transport gives what its script has to give. -/
theorem feed_read : Feed read (·.inlet.content) (·.inlet.ending) (·.inlet.arrival) where
  ends := by
    intro room duplex h
    obtain ⟨rest, hread⟩ := Script.feed_read.ends room duplex.inlet h
    simp only [read, hread]
    cases duplex.inlet.ending with
    | finished => exact ⟨_, rfl⟩
    | failed reason => exact ⟨_, rfl⟩
    | pending => exact ⟨duplex, rfl⟩
  gives := by
    intro room duplex hroom h
    obtain ⟨wait, bytes, rest, hread, hrest⟩ := Script.feed_read.gives room duplex.inlet hroom h
    exact ⟨wait, bytes, _, by simp only [read, hread]; rfl, hrest⟩

end Duplex

/-! ## Conservation over one read -/

/-- A source whose reads take the bytes that they give off the front. -/
def Yields {σ : Type} (reader : Reader σ) (unread : σ → Bytes) : Prop :=
  ∀ ⦃room : Nat⦄ ⦃source : σ⦄ ⦃wait : Nat⦄ ⦃bytes : Bytes⦄ ⦃rest : σ⦄, 0 < room →
    reader room source = .got wait bytes rest → bytes ≠ [] →
    bytes.length ≤ room ∧ unread source = bytes ++ unread rest

theorem Feed.yields {σ : Type} {reader : Reader σ} {content : σ → Bytes}
    {ending : σ → Script.Ending} {arrival : σ → Nat}
    (h : Feed reader content ending arrival) : Yields reader content := by
  intro room source wait bytes rest hroom hread hne
  by_cases hcontent : content source = []
  · obtain ⟨last, hend⟩ := h.ends room source hcontent
    rw [hend] at hread
    cases hending : ending source with
    | finished =>
      rw [hending] at hread
      cases hread
      exact absurd rfl hne
    | failed reason =>
      rw [hending] at hread
      cases hread
    | pending =>
      rw [hending] at hread
      cases hread
  · obtain ⟨wait', bytes', rest', hgot, _, hlength, hbytes, _⟩ := h.gives room source hroom hcontent
    rw [hgot] at hread
    cases hread
    exact ⟨hlength, hbytes⟩

theorem Conserves.yields {σ : Type} {reader : Reader σ} {unread : σ → Bytes}
    (h : Conserves reader unread) : Yields reader unread := by
  intro room source wait bytes rest _ hread _
  simpa only [hread] using h room source

end ProxyGate.Stream
