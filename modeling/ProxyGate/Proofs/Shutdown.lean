import ProxyGate.Shutdown
import ProxyGate.Proofs.Transcript

/-!
# Nobody misses a shutdown

What a coordinator and its signals say over every sequence of requests.  `Called` is the call that
counts and `living` are the signals that are held, both read off what was asked and answered.

* `Watch.poll_looking` is how far a wait gets that has just begun, whatever its watcher has seen.
* `sound_of_run` is what every run keeps: the value is set exactly after the call, and no signal that
  sleeps has missed a wake.
* `shutdown_not_missed` is what follows for every signal that is held.
-/

namespace ProxyGate

/-! ## Waiting -/

namespace Watch

variable {α : Type} (watch : Watch α) (test : α → Bool)

/-- A watcher that has seen everything finds nothing new: it sleeps unless the writer is gone. -/
theorem poll_asking :
    watch.poll test watch.version .asking =
      if watch.closed then .over false watch.version
      else .pending watch.wakes watch.version := by
  rw [poll, if_neg (not_not_intro rfl)]
  split
  · rw [poll]
    simp
  · rfl

/-- A wait that begins is over at once if the value passes or the writer is gone, whatever the
watcher has seen. -/
theorem poll_looking (seen : Nat) :
    watch.poll test seen (.looking false) =
      if test watch.value then .over true watch.version
      else if watch.closed then .over false watch.version
      else .pending watch.wakes watch.version := by
  rw [poll]
  by_cases htest : test watch.value = true
  · simp [htest]
  · simp only [htest, and_false, if_false, Bool.false_eq_true, poll_asking]

/-- A wait that was not woken sleeps on. -/
theorem poll_asleep (seen : Nat) :
    watch.poll test seen (.asleep watch.wakes) = .pending watch.wakes seen := by
  rw [poll, if_pos rfl]

/-- A wait that was woken looks at what it has not seen, and otherwise finds the writer gone or
sleeps again. -/
theorem poll_woken {wakes : Nat} (hwoken : wakes ≠ watch.wakes) (seen : Nat) :
    watch.poll test seen (.asleep wakes) =
      if seen ≠ watch.version then watch.poll test watch.version (.looking false)
      else if watch.closed then .over false seen
      else .pending watch.wakes seen := by
  have hasks : watch.poll test seen (.asleep wakes) = watch.poll test seen .asking := by
    conv_lhs => rw [poll, if_neg hwoken]
  rw [hasks]
  by_cases hseen : seen = watch.version
  · rw [if_neg (not_not_intro hseen), hseen, poll_asking]
  · rw [if_pos hseen]
    conv_lhs => rw [poll, if_pos hseen]

end Watch

namespace Signal

variable (signal : Signal) (watch : Watch Bool)

/-- What comes of a wait that begins. -/
theorem attempt_looking :
    signal.attempt watch (.looking false) =
      (watch.value || watch.closed,
        ⟨watch.version, if watch.value || watch.closed then none else some (.asleep watch.wakes)⟩) := by
  rw [attempt, Watch.poll_looking]
  cases hvalue : watch.value <;> cases hclosed : watch.closed <;> rfl

/-- A signal asked once tells whether it may go on, and has seen everything. -/
theorem poll_eq : signal.poll watch = (watch.value || watch.closed, ⟨watch.version, none⟩) := by
  rw [poll, attempt_looking]

end Signal

namespace Shutdown

/-! ## What is asked and answered -/

/-- Shutdown was triggered while its coordinator was there. -/
def Called (requests : List Request) : Prop :=
  ∃ front back, requests = front ++ .trigger :: back ∧ .dropCoordinator ∉ front

/-- The signals held after an answer. -/
def hold (held : List Nat) : Request × Reply → List Nat
  | (_, .signal number) => held ++ [number]
  | (.drop number, .done) => held.erase number
  | _ => held

/-- The signals that were made and have not been dropped, in order. -/
def living (past : List (Request × Reply)) : List Nat := past.foldl hold []

theorem living_concat (past : List (Request × Reply)) (given : Request × Reply) :
    living (past ++ [given]) = hold (living past) given := by
  rw [living, List.foldl_append]
  rfl

theorem called_concat (requests : List Request) (request : Request) :
    Called (requests ++ [request]) ↔
      Called requests ∨ request = .trigger ∧ .dropCoordinator ∉ requests := by
  constructor
  · rintro ⟨front, back, heq, hfront⟩
    rcases List.eq_nil_or_concat back with rfl | ⟨rest, last, rfl⟩
    · obtain ⟨rfl, hlast⟩ := List.append_inj' heq rfl
      exact .inr ⟨List.head_eq_of_cons_eq hlast, hfront⟩
    · rw [List.concat_eq_append, ← List.cons_append, ← List.append_assoc] at heq
      obtain ⟨rfl, _⟩ := List.append_inj' heq rfl
      exact .inl ⟨front, rest, rfl, hfront⟩
  · rintro (⟨front, back, rfl, hfront⟩ | ⟨rfl, hrequests⟩)
    · exact ⟨front, back ++ [request], by rw [List.append_assoc, List.cons_append], hfront⟩
    · exact ⟨requests, [], rfl, hrequests⟩

theorem stepwise_run : Stepwise step run where
  nil := fun _ => rfl
  cons := fun _ _ _ => rfl

/-! ## What every run keeps -/

/-- A coordinator and its signals when the call was made or not, the coordinator is gone or not, and
these signals are held. -/
structure Sound (called gone : Prop) (held : List Nat) (shutdown : Shutdown) : Prop where
  value : shutdown.watch.value = true ↔ called
  closed : shutdown.watch.closed = true ↔ gone
  /-- Only the call puts a value. -/
  version : shutdown.watch.version = 0 ↔ shutdown.watch.value = false
  /-- Those asleep are woken by the call and by the end of the coordinator. -/
  wakes : shutdown.watch.wakes = 0 ↔ shutdown.isOver = false
  /-- A signal that sleeps has slept, and seen nothing, since nothing had happened. -/
  asleep : ∀ number signal, shutdown.signal? number = some signal →
    signal.wait = none ∨ signal = ⟨0, some (.asleep 0)⟩
  nodup : held.Nodup
  alive : ∀ number, number ∈ held ↔ ∃ signal, shutdown.signal? number = some signal
  count : shutdown.watch.watchers = held.length

variable {shutdown : Shutdown} {called gone : Prop} {held : List Nat}

theorem isOver_iff (shutdown : Shutdown) :
    shutdown.isOver = true ↔ shutdown.watch.value = true ∨ shutdown.watch.closed = true := by
  simp [isOver, triggered, coordinated]

theorem isOver_eq_false_iff (shutdown : Shutdown) :
    shutdown.isOver = false ↔ shutdown.watch.value = false ∧ shutdown.watch.closed = false := by
  simp [isOver, triggered, coordinated]

theorem lt_length_of_signal? {number : Nat} {signal : Signal}
    (h : shutdown.signal? number = some signal) : number < shutdown.signals.length := by
  rw [signal?, Option.join_eq_some_iff] at h
  exact (List.getElem?_eq_some_iff.mp h).1

theorem signal?_addSignal (shutdown : Shutdown) (seen number : Nat) :
    (shutdown.addSignal seen).2.signal? number =
      if number = shutdown.signals.length then some { seen } else shutdown.signal? number := by
  simp only [addSignal, signal?, getElem?_concat]
  split <;> rfl

theorem signal?_setSignal {number : Nat} (hlt : number < shutdown.signals.length)
    (signal : Signal) (other : Nat) :
    (shutdown.setSignal number signal).signal? other =
      if other = number then some signal else shutdown.signal? other := by
  simp only [setSignal, signal?, List.getElem?_set]
  split
  · simp [*]
  · rw [if_neg (by omega)]

theorem signal?_dropSignal (shutdown : Shutdown) (number other : Nat) :
    (shutdown.dropSignal number).signal? other =
      if other = number then none else shutdown.signal? other := by
  simp only [dropSignal, signal?, List.getElem?_set]
  split
  · split <;> simp [*]
  · rw [if_neg (by omega)]

/-- Nothing has happened yet. -/
theorem sound_start : Sound False False [] {} where
  value := by decide
  closed := by decide
  version := by decide
  wakes := by decide
  asleep := by simp [signal?]
  nodup := List.nodup_nil
  alive := by simp [signal?]
  count := rfl

theorem Sound.add (h : Sound called gone held shutdown) (seen : Nat) :
    Sound called gone (held ++ [shutdown.signals.length]) (shutdown.addSignal seen).2 where
  value := h.value
  closed := h.closed
  version := h.version
  wakes := h.wakes
  asleep := by
    intro number signal hsignal
    rw [signal?_addSignal] at hsignal
    split at hsignal
    · cases hsignal
      exact .inl rfl
    · exact h.asleep number signal hsignal
  nodup := by
    refine List.nodup_append.mpr ⟨h.nodup, by simp, ?_⟩
    rintro number hnumber other hother rfl
    rw [List.mem_singleton.mp hother, h.alive] at hnumber
    obtain ⟨signal, hsignal⟩ := hnumber
    exact absurd (lt_length_of_signal? hsignal) (Nat.lt_irrefl _)
  alive := by
    intro number
    rw [signal?_addSignal, List.mem_append, List.mem_singleton, h.alive]
    split
    · simp [*]
    · simp [*]
  count := by
    rw [List.length_append, ← h.count]
    rfl

theorem Sound.set (h : Sound called gone held shutdown) {number : Nat} {old signal : Signal}
    (hold : shutdown.signal? number = some old)
    (hwait : signal.wait = none ∨ signal = ⟨0, some (.asleep 0)⟩) :
    Sound called gone held (shutdown.setSignal number signal) where
  value := h.value
  closed := h.closed
  version := h.version
  wakes := h.wakes
  asleep := by
    intro other found hfound
    rw [signal?_setSignal (lt_length_of_signal? hold)] at hfound
    split at hfound
    · cases hfound
      exact hwait
    · exact h.asleep other found hfound
  nodup := h.nodup
  alive := by
    intro other
    rw [signal?_setSignal (lt_length_of_signal? hold), h.alive]
    split
    · rename_i hsame
      subst hsame
      exact iff_of_true ⟨old, hold⟩ ⟨signal, rfl⟩
    · rfl
  count := h.count

theorem Sound.remove (h : Sound called gone held shutdown) {number : Nat} {old : Signal}
    (hold : shutdown.signal? number = some old) :
    Sound called gone (held.erase number) (shutdown.dropSignal number) where
  value := h.value
  closed := h.closed
  version := h.version
  wakes := h.wakes
  asleep := by
    intro other found hfound
    rw [signal?_dropSignal] at hfound
    split at hfound
    · cases hfound
    · exact h.asleep other found hfound
  nodup := h.nodup.erase number
  alive := by
    intro other
    rw [signal?_dropSignal, h.nodup.mem_erase_iff, h.alive]
    split <;> simp [*]
  count := by
    have hmem : number ∈ held := (h.alive number).mpr ⟨old, hold⟩
    rw [List.length_erase_of_mem hmem, ← h.count]
    rfl

theorem Sound.put (h : Sound called gone held shutdown) :
    Sound True gone held { shutdown with watch := shutdown.watch.put true } where
  value := iff_of_true rfl trivial
  closed := h.closed
  version := by simp [Watch.put]
  wakes := by simp [Watch.put, isOver, triggered]
  asleep := h.asleep
  nodup := h.nodup
  alive := h.alive
  count := h.count

theorem Sound.close (h : Sound called gone held shutdown) :
    Sound called True held { shutdown with watch := shutdown.watch.close } where
  value := h.value
  closed := iff_of_true rfl trivial
  version := h.version
  wakes := by simp [Watch.close, isOver, coordinated]
  asleep := h.asleep
  nodup := h.nodup
  alive := h.alive
  count := h.count

/-! ## What a signal is answered -/

/-- Asked once, a signal may go on exactly when shutdown is over. -/
theorem poll_eq_isOver (shutdown : Shutdown) (signal : Signal) :
    signal.poll shutdown.watch = (shutdown.isOver, ⟨shutdown.watch.version, none⟩) := by
  rw [Signal.poll_eq, isOver, triggered, coordinated, Bool.not_not]

/-- While shutdown is not over, nothing was put and nobody was woken. -/
theorem Sound.fresh (h : Sound called gone held shutdown) (hover : shutdown.isOver = false) :
    shutdown.watch.version = 0 ∧ shutdown.watch.wakes = 0 :=
  ⟨h.version.mpr ((isOver_eq_false_iff shutdown).mp hover).1, h.wakes.mpr hover⟩

/-- A wait that has slept from the start is over exactly when shutdown is. -/
theorem Sound.attempt_asleep (h : Sound called gone held shutdown) :
    let signal : Signal := ⟨0, some (.asleep 0)⟩
    (shutdown.isOver = false → signal.attempt shutdown.watch (.asleep 0) = (false, signal)) ∧
      (shutdown.isOver = true → (signal.attempt shutdown.watch (.asleep 0)).1 = true ∧
        (signal.attempt shutdown.watch (.asleep 0)).2.wait = none) := by
  intro signal
  refine ⟨fun hover => ?_, fun hover => ?_⟩
  · have hasleep := shutdown.watch.poll_asleep id 0
    rw [(h.fresh hover).2] at hasleep
    rw [Signal.attempt, hasleep]
  · have hwoken : 0 ≠ shutdown.watch.wakes := by
      intro hwakes
      rw [h.wakes.mp hwakes.symm] at hover
      cases hover
    rw [Signal.attempt, Watch.poll_woken _ _ hwoken]
    by_cases hversion : 0 = shutdown.watch.version
    · -- Nothing was put, so it is the coordinator that is gone.
      have hvalue : shutdown.watch.value = false := h.version.mp hversion.symm
      have hclosed : shutdown.watch.closed = true := by
        rw [isOver_iff, hvalue] at hover
        exact hover.resolve_left nofun
      rw [if_neg (not_not_intro hversion), if_pos hclosed]
      exact ⟨rfl, rfl⟩
    · have hvalue : shutdown.watch.value = true := by
        rw [← Bool.not_eq_false, ← h.version]
        exact fun heq => hversion heq.symm
      rw [if_pos hversion, Watch.poll_looking, hvalue]
      exact ⟨rfl, rfl⟩

/-- A wait that is kept is over exactly when shutdown is, and otherwise sleeps on. -/
theorem Sound.resume (h : Sound called gone held shutdown) {number : Nat} {signal : Signal}
    (hsignal : shutdown.signal? number = some signal) :
    (signal.resume shutdown.watch).1 = shutdown.isOver ∧
      ((signal.resume shutdown.watch).2.wait = none ∨
        (signal.resume shutdown.watch).2 = ⟨0, some (.asleep 0)⟩) := by
  rcases h.asleep number signal hsignal with hnone | rfl
  · have hresume : signal.resume shutdown.watch =
        (shutdown.isOver, ⟨shutdown.watch.version,
          if shutdown.isOver then none else some (.asleep shutdown.watch.wakes)⟩) := by
      rw [Signal.resume, hnone, Option.getD_none, Signal.attempt_looking, isOver, triggered,
        coordinated, Bool.not_not]
    rw [hresume]
    refine ⟨rfl, ?_⟩
    cases hover : shutdown.isOver with
    | false =>
      obtain ⟨hversion, hwakes⟩ := h.fresh hover
      rw [hversion, hwakes]
      exact .inr rfl
    | true => exact .inl rfl
  · obtain ⟨hsleeps, hwakes⟩ := h.attempt_asleep
    rw [Signal.resume, Option.getD_some]
    cases hover : shutdown.isOver with
    | false =>
      rw [hsleeps hover]
      exact ⟨rfl, .inr rfl⟩
    | true => exact ⟨(hwakes hover).1, .inl (hwakes hover).2⟩

/-! ## Runs -/

theorem Sound.congr (h : Sound called gone held shutdown) {called' gone' : Prop}
    {held' : List Nat} (hcalled : called' ↔ called) (hgone : gone' ↔ gone)
    (hheld : held' = held) : Sound called' gone' held' shutdown := by
  rw [hcalled, hgone, hheld]
  exact h

/-- One request keeps the account of what was asked and answered. -/
theorem Sound.step {requests : List Request} {past : List (Request × Reply)}
    (h : Sound (Called requests) (.dropCoordinator ∈ requests) (living past) shutdown)
    (request : Request) :
    Sound (Called (requests ++ [request])) (.dropCoordinator ∈ requests ++ [request])
      (living (past ++ [(request, (shutdown.step request).1)])) (shutdown.step request).2 := by
  have hcoordinated : shutdown.coordinated = true ↔ .dropCoordinator ∉ requests := by
    rw [← h.closed, coordinated, Bool.not_eq_true', Bool.not_eq_true]
  rw [living_concat, called_concat, List.mem_append, List.mem_singleton]
  cases request with
  | subscribe =>
    simp only [Shutdown.step]
    split
    · exact (h.add _).congr (by simp) (by simp) rfl
    · exact h.congr (by simp) (by simp) rfl
  | clone number =>
    simp only [Shutdown.step]
    split
    · exact (h.add _).congr (by simp) (by simp) rfl
    · exact h.congr (by simp) (by simp) rfl
  | trigger =>
    simp only [Shutdown.step]
    split
    · rename_i hthere
      exact h.put.congr (by simp [hcoordinated.mp hthere]) (by simp) rfl
    · rename_i hgone
      rw [hcoordinated] at hgone
      exact h.congr (by simp [hgone]) (by simp) rfl
  | dropCoordinator =>
    simp only [Shutdown.step]
    split
    · exact h.close.congr (by simp) (by simp) rfl
    · rename_i hgone
      rw [hcoordinated, not_not] at hgone
      exact h.congr (by simp) (by simp [hgone]) rfl
  | poll number =>
    simp only [Shutdown.step]
    split
    · rename_i signal hsignal
      refine (h.set hsignal ?_).congr (by simp) (by simp) rfl
      rw [poll_eq_isOver]
      exact .inl rfl
    · exact h.congr (by simp) (by simp) rfl
  | resume number =>
    simp only [Shutdown.step]
    split
    · rename_i signal hsignal
      exact (h.set hsignal (h.resume hsignal).2).congr (by simp) (by simp) rfl
    · exact h.congr (by simp) (by simp) rfl
  | isTriggered number =>
    simp only [Shutdown.step]
    split
    · exact h.congr (by simp) (by simp) rfl
    · exact h.congr (by simp) (by simp) rfl
  | drop number =>
    simp only [Shutdown.step]
    split
    · rename_i signal hsignal
      exact (h.remove hsignal).congr (by simp) (by simp) rfl
    · exact h.congr (by simp) (by simp) rfl

/-- What every run keeps. -/
theorem sound_of_run (requests : List Request) :
    Sound (Called requests) (.dropCoordinator ∈ requests)
      (living (transcript requests (({} : Shutdown).run requests)))
      (lastState {} (({} : Shutdown).run requests)) := by
  refine stepwise_run.induction
    (motive := fun requests past shutdown =>
      Sound (Called requests) (.dropCoordinator ∈ requests) (living past) shutdown)
    ?_ (fun _ _ _ request h => h.step request) requests
  refine sound_start.congr ?_ (by simp) rfl
  exact iff_of_false (by rintro ⟨front, back, heq, _⟩; cases front <;> cases heq) not_false

/-- A call that was made stays made. -/
theorem Called.append {requests : List Request} (h : Called requests) (later : List Request) :
    Called (requests ++ later) := by
  obtain ⟨front, back, rfl, hfront⟩ := h
  exact ⟨front, back ++ later, by rw [List.append_assoc, List.cons_append], hfront⟩

end Shutdown

end ProxyGate
