import ProxyGate.Proofs.Stream.Feed

/-!
# What comes in time

Of what a source has to give, only a part comes within a time limit.  `Script.contentBy` are the
bytes that do, and `Script.endingBy` is the end as it looks from within the limit: data that goes on
too late is data that nothing more comes of.

`FeedBy` is the promise of a source for the time that is left.  Scripts keep it for every limit,
`feedBy_read`; and a source whose data and end all come in time keeps it with all of its data,
`Feed.by`, so what holds under this promise holds under `Feed` too.
-/

namespace ProxyGate.Stream

/-- An answer as it looks to a reader that waits no longer than a time limit. -/
def Pull.within {σ : Type} (left : Nat) : Pull σ → Pull σ
  | .got wait bytes rest => if wait ≤ left then .got wait bytes rest else .never
  | .failed wait reason rest => if wait ≤ left then .failed wait reason rest else .never
  | .never => .never

/-- A source as it looks to a reader that waits no longer than a time limit. -/
def Reader.within {σ : Type} (reader : Reader σ) (left : Nat) : Reader σ :=
  fun room source => (reader room source).within left

namespace Script

/-- The bytes that come within a time limit and before the end of the data. -/
def contentBy : Nat → Script → Bytes
  | _, [] => []
  | limit, .data bytes :: rest => if bytes = [] then [] else bytes ++ contentBy limit rest
  | limit, .delay milliseconds :: rest =>
    if milliseconds ≤ limit then contentBy (limit - milliseconds) rest else []
  | _, .stall :: _ | _, .finish :: _ | _, .failure _ :: _ => []

/-- How the data ends for a reader that waits no longer than a time limit. -/
def endingBy : Nat → Script → Ending
  | _, [] => .finished
  | limit, .data bytes :: rest => if bytes = [] then .finished else endingBy limit rest
  | limit, .delay milliseconds :: rest =>
    if milliseconds ≤ limit then endingBy (limit - milliseconds) rest else .pending
  | _, .stall :: _ => .pending
  | _, .finish :: _ => .finished
  | _, .failure reason :: _ => .failed reason

/-! ## Single steps -/

theorem contentBy_data {bytes : Bytes} (hne : bytes ≠ []) (limit : Nat) (rest : Script) :
    contentBy limit (.data bytes :: rest) = bytes ++ contentBy limit rest := by
  rw [contentBy, if_neg hne]

theorem endingBy_data {bytes : Bytes} (hne : bytes ≠ []) (limit : Nat) (rest : Script) :
    endingBy limit (.data bytes :: rest) = endingBy limit rest := by
  rw [endingBy, if_neg hne]

theorem contentBy_unread (limit : Nat) (bytes : Bytes) (rest : Script) :
    contentBy limit (unread bytes rest) = bytes ++ contentBy limit rest := by
  by_cases hne : bytes = []
  · simp [unread, hne]
  · rw [unread, if_neg hne, contentBy_data hne]

theorem endingBy_unread (limit : Nat) (bytes : Bytes) (rest : Script) :
    endingBy limit (unread bytes rest) = endingBy limit rest := by
  by_cases hne : bytes = []
  · simp [unread, hne]
  · rw [unread, if_neg hne, endingBy_data hne]

/-! ## What comes in time and what comes at all -/

/-- What comes in time is the first part of what comes. -/
theorem contentBy_prefix_content (limit : Nat) (script : Script) :
    script.contentBy limit <+: script.content := by
  induction script generalizing limit with
  | nil => exact List.prefix_rfl
  | cons step rest ih =>
    cases step with
    | data bytes =>
      by_cases hne : bytes = []
      · simp [contentBy, hne]
      · rw [contentBy_data hne, content_data hne, List.prefix_append_right_inj]
        exact ih limit
    | delay milliseconds =>
      rw [contentBy, content_delay]
      split
      · exact ih _
      · exact List.nil_prefix
    | stall => exact List.nil_prefix
    | finish => exact List.nil_prefix
    | failure reason => exact List.nil_prefix

/-- What comes is the first part of all that a script holds. -/
theorem content_prefix_bytes (script : Script) : script.content <+: script.bytes := by
  induction script with
  | nil => exact List.prefix_rfl
  | cons step rest ih =>
    cases step with
    | data bytes =>
      by_cases hne : bytes = []
      · simp [content, hne]
      · rw [content_data hne, bytes_cons, Step.bytes, List.prefix_append_right_inj]
        exact ih
    | delay milliseconds => exact ih
    | stall => exact List.nil_prefix
    | finish => exact List.nil_prefix
    | failure reason => exact List.nil_prefix

/-- Later steps take nothing away from what comes in time. -/
theorem contentBy_prefix_append (limit : Nat) (script later : Script) :
    script.contentBy limit <+: contentBy limit (script ++ later) := by
  induction script generalizing limit with
  | nil => exact List.nil_prefix
  | cons step rest ih =>
    cases step with
    | data bytes =>
      by_cases hne : bytes = []
      · simp [contentBy, hne]
      · rw [List.cons_append, contentBy_data hne, contentBy_data hne,
          List.prefix_append_right_inj]
        exact ih limit
    | delay milliseconds =>
      rw [List.cons_append, contentBy, contentBy]
      split
      · exact ih _
      · exact List.nil_prefix
    | stall => exact List.nil_prefix
    | finish => exact List.nil_prefix
    | failure reason => exact List.nil_prefix

end Script

/-! ## The promise for the time that is left -/

/-- A source that within the time left has to give `content` and then ends; the promise is for
sources and times for which it `holds`. -/
structure FeedBy {σ : Type} (reader : Reader σ) (content : Nat → σ → Bytes)
    (ending : Nat → σ → Script.Ending) (holds : Nat → σ → Prop) : Prop where
  /-- Without bytes left, a read is answered by the end. -/
  ends : ∀ (room left : Nat) (source : σ), holds left source → content left source = [] →
    ∃ wait rest, wait ≤ left ∧
      reader.within left room source = (ending left source).answer wait rest
  /-- With bytes left, a read gives the first of them. -/
  gives : ∀ (room left : Nat) (source : σ), holds left source → 0 < room →
    content left source ≠ [] →
    ∃ wait bytes rest, reader room source = .got wait bytes rest ∧ wait ≤ left ∧ bytes ≠ [] ∧
      bytes.length ≤ room ∧ content left source = bytes ++ content (left - wait) rest ∧
      ending (left - wait) rest = ending left source ∧ holds (left - wait) rest

/-- A source that gives everything in time keeps its promise within that time. -/
theorem Feed.by {σ : Type} {reader : Reader σ} {content : σ → Bytes} {ending : σ → Script.Ending}
    {arrival : σ → Nat} (h : Feed reader content ending arrival) :
    FeedBy reader (fun _ => content) (fun _ => ending)
      (fun left source => arrival source ≤ left) where
  ends := by
    intro room left source htime hcontent
    obtain ⟨rest, hread⟩ := h.ends room source hcontent
    refine ⟨arrival source, rest, htime, ?_⟩
    rw [Reader.within, hread]
    cases ending source <;> simp [Script.Ending.answer, Pull.within, htime]
  gives := by
    intro room left source htime hroom hcontent
    obtain ⟨wait, bytes, rest, hread, hne, hlength, hbytes, hending, harrival⟩ :=
      h.gives room source hroom hcontent
    exact ⟨wait, bytes, rest, hread, by omega, hne, hlength, hbytes, hending, by omega⟩

theorem Pull.within_map {σ τ : Type} (f : σ → τ) (left : Nat) (pull : Pull σ) :
    (pull.map f).within left = (pull.within left).map f := by
  cases pull <;> simp only [Pull.map, Pull.within] <;> split <;> rfl

/-- Only an end looks like an end from somewhere else. -/
theorem Pull.eq_answer_of_map {σ τ : Type} [Nonempty σ] {f : σ → τ} {pull : Pull σ}
    {ending : Script.Ending} {wait : Nat} {rest : τ} (h : pull.map f = ending.answer wait rest) :
    ∃ last, pull = ending.answer wait last := by
  cases pull with
  | got time bytes last =>
    cases ending <;> cases h
    exact ⟨last, rfl⟩
  | failed time reason last =>
    cases ending <;> cases h
    exact ⟨last, rfl⟩
  | never =>
    cases ending <;> cases h
    exact ⟨Classical.choice inferInstance, rfl⟩

theorem Pull.within_after {σ : Type} (left milliseconds : Nat) (pull : Pull σ) :
    (pull.after milliseconds).within left =
      if milliseconds ≤ left then (pull.within (left - milliseconds)).after milliseconds
      else .never := by
  cases pull with
  | never => simp [Pull.after, Pull.within]
  | got wait bytes rest =>
    simp only [Pull.after, Pull.within]
    by_cases hle : milliseconds + wait ≤ left
    · rw [if_pos hle, if_pos (by omega), if_pos (by omega)]
    · rw [if_neg hle]
      split
      · rw [if_neg (by omega)]
      · rfl
  | failed wait reason rest =>
    simp only [Pull.after, Pull.within]
    by_cases hle : milliseconds + wait ≤ left
    · rw [if_pos hle, if_pos (by omega), if_pos (by omega)]
    · rw [if_neg hle]
      split
      · rw [if_neg (by omega)]
      · rfl

namespace Script

theorem feedBy_read : FeedBy read contentBy endingBy fun _ _ => True where
  ends := by
    intro room left script _ h
    induction script generalizing left with
    | nil => exact ⟨0, [], Nat.zero_le _, rfl⟩
    | cons step rest ih =>
      cases step with
      | data bytes =>
        by_cases hne : bytes = []
        · subst hne
          exact ⟨0, rest, Nat.zero_le _, by
            simp [Reader.within, read, unread, endingBy, Ending.answer, Pull.within]⟩
        · rw [contentBy_data hne, List.append_eq_nil_iff] at h
          exact absurd h.1 hne
      | delay milliseconds =>
        rw [contentBy] at h
        rw [Reader.within, read, endingBy, Pull.within_after]
        by_cases hle : milliseconds ≤ left
        · rw [if_pos hle] at h ⊢
          rw [if_pos hle]
          obtain ⟨wait, last, hwait, hread⟩ := ih (left - milliseconds) h
          refine ⟨milliseconds + wait, last, by omega, ?_⟩
          rw [Reader.within] at hread
          rw [hread]
          cases endingBy (left - milliseconds) rest <;> rfl
        · rw [if_neg hle, if_neg hle]
          exact ⟨0, rest, Nat.zero_le _, rfl⟩
      | stall => exact ⟨0, rest, Nat.zero_le _, rfl⟩
      | finish =>
        exact ⟨0, .finish :: rest, Nat.zero_le _, by
          simp [Reader.within, read, endingBy, Ending.answer, Pull.within]⟩
      | failure reason =>
        refine ⟨0, rest, Nat.zero_le _, ?_⟩
        simp [Reader.within, read, endingBy, Ending.answer, Pull.within]
  gives := by
    intro room left script _ hroom h
    induction script generalizing left with
    | nil => exact absurd rfl h
    | cons step rest ih =>
      cases step with
      | data bytes =>
        by_cases hne : bytes = []
        · subst hne
          exact absurd (by simp [contentBy]) h
        · refine ⟨0, bytes.take room, unread (bytes.drop room) rest, rfl, Nat.zero_le _, ?_, ?_, ?_,
            ?_, trivial⟩
          · simp only [ne_eq, List.take_eq_nil_iff, not_or]
            exact ⟨Nat.ne_of_gt hroom, hne⟩
          · exact List.length_take_le room bytes
          · rw [Nat.sub_zero, contentBy_unread, contentBy_data hne, ← List.append_assoc,
              List.take_append_drop]
          · rw [Nat.sub_zero, endingBy_unread, endingBy_data hne]
      | delay milliseconds =>
        rw [contentBy] at h
        split at h
        · rename_i hle
          obtain ⟨wait, bytes, last, hread, hwait, hne, hlength, hcontent, hending, _⟩ :=
            ih (left - milliseconds) h
          refine ⟨milliseconds + wait, bytes, last, ?_, by omega, hne, hlength, ?_, ?_, trivial⟩
          · rw [read, hread, Pull.after]
          · rw [contentBy, if_pos hle, hcontent, Nat.sub_sub]
          · rw [endingBy, if_pos hle, ← hending, Nat.sub_sub]
        · exact absurd rfl h
      | stall => exact absurd rfl h
      | finish => exact absurd rfl h
      | failure reason => exact absurd rfl h

end Script

theorem Duplex.map_inlet_read (room : Nat) (duplex : Duplex) :
    (Duplex.read room duplex).map (·.inlet) = duplex.inlet.read room := by
  rw [read]
  cases duplex.inlet.read room <;> rfl

/-- Bytes that are given from somewhere else are given here. -/
theorem Pull.eq_got_of_map {σ τ : Type} {f : σ → τ} {pull : Pull σ} {wait : Nat} {bytes : Bytes}
    {rest : τ} (h : pull.map f = .got wait bytes rest) :
    ∃ last, pull = .got wait bytes last ∧ f last = rest := by
  cases pull <;> cases h
  exact ⟨_, rfl, rfl⟩

/-- A failure somewhere else is a failure here. -/
theorem Pull.eq_failed_of_map {σ τ : Type} {f : σ → τ} {pull : Pull σ} {wait : Nat}
    {reason : String} {rest : τ} (h : pull.map f = .failed wait reason rest) :
    ∃ last, pull = .failed wait reason last ∧ f last = rest := by
  cases pull <;> cases h
  exact ⟨_, rfl, rfl⟩

theorem Pull.eq_never_of_map {σ τ : Type} {f : σ → τ} {pull : Pull σ}
    (h : pull.map f = .never) : pull = .never := by
  cases pull <;> cases h
  rfl

/-- A wait in front of a transport's script comes before whatever a read gives. -/
theorem Duplex.read_of_delay (room : Nat) {duplex : Duplex} {milliseconds : Nat} {rest : Script}
    (h : duplex.inlet = .delay milliseconds :: rest) :
    Duplex.read room duplex =
      (Duplex.read room { duplex with inlet := rest }).after milliseconds := by
  simp only [read, h, Script.read]
  cases Script.read room rest <;> rfl

theorem Duplex.feedBy_read : FeedBy Duplex.read (fun left duplex => duplex.inlet.contentBy left)
    (fun left duplex => duplex.inlet.endingBy left) fun _ _ => True where
  ends := by
    intro room left duplex _ h
    obtain ⟨wait, rest, hwait, hread⟩ := Script.feedBy_read.ends room left duplex.inlet trivial h
    rw [Reader.within, ← Duplex.map_inlet_read, Pull.within_map] at hread
    have : Nonempty Duplex := ⟨duplex⟩
    obtain ⟨last, hlast⟩ := Pull.eq_answer_of_map hread
    exact ⟨wait, last, hwait, hlast⟩
  gives := by
    intro room left duplex _ hroom h
    obtain ⟨wait, bytes, rest, hread, hrest⟩ :=
      Script.feedBy_read.gives room left duplex.inlet trivial hroom h
    exact ⟨wait, bytes, _, by simp only [read, hread]; rfl, hrest⟩

end ProxyGate.Stream
