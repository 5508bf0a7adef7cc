import ProxyGate.Sniff.Report
import ProxyGate.Proofs.Sniff.Window
import ProxyGate.Proofs.Stream.Replay

/-!
# A search loses no byte

A search reads bytes into its window, takes the first line off and leaves the rest to be replayed.
`held_of_accepted` says so for every source, whatever its unread bytes are taken to be.
`replaysBehind_of_accepted` puts it together with what a stream does with its bytes: at every time the
bytes taken off, those delivered, those held and those still unread are together the bytes of the
connection, in this order, and reading to the end gives what comes behind the bytes taken off.
-/

namespace ProxyGate.Sniff

open ProxyGate.Stream

variable {σ : Type}

/-- How many bytes a policy takes off the front of a connection, and the header that they say. -/
inductive Takes (bytes : Bytes) : Policy → Nat → Option Header → Prop where
  | disabled : Takes bytes .disabled 0 none
  | required {length : Nat} {header : Header} (first : bytes.FirstLine length)
      (parsed : Header.parse (bytes.take length) = .ok header) :
      Takes bytes .required length (some header)

theorem Takes.le_length {bytes : Bytes} {policy : Policy} {length : Nat} {header : Option Header}
    (h : Takes bytes policy length header) : length ≤ bytes.length := by
  cases h with
  | disabled => exact Nat.zero_le _
  | required first => exact first.le_length

/-- Bytes behind those that are taken do not matter. -/
theorem Takes.append {front : Bytes} {policy : Policy} {length : Nat} {header : Option Header}
    (h : Takes front policy length header) (back : Bytes) :
    Takes (front ++ back) policy length header := by
  cases h with
  | disabled => exact .disabled
  | required first parsed =>
    refine .required ((Bytes.firstLine_append_iff first.le_length back).mpr first) ?_
    rwa [List.take_append_of_le_length first.le_length]

/-- An accepted search has found the line that says its header. -/
theorem conclude_eq_ok {progress : Progress σ} {outcome : Except Failure Nat}
    {accepted : Accepted σ} (h : conclude progress outcome = .ok accepted) :
    ∃ length header, outcome = .ok length ∧
      Header.parse (progress.window.take length) = .ok header ∧
      accepted = ⟨some header, ⟨progress.window.drop length, progress.source⟩⟩ := by
  cases outcome with
  | error failure => cases h
  | ok length =>
    simp only [conclude] at h
    cases hparse : Header.parse (progress.window.take length) with
    | error fault =>
      rw [hparse] at h
      cases h
    | ok header =>
      rw [hparse] at h
      cases h
      exact ⟨length, header, rfl, hparse, rfl⟩

/-- An accepted connection has read some bytes, taken off the header and holds all others. -/
theorem held_of_accepted {reader : Reader σ} {limit : Nat} {source : σ} {policy : Policy}
    {accepted : Accepted σ} (hreader : ∃ unread, Yields reader unread)
    (h : (sniff reader limit source policy).result = .ok accepted) :
    ∃ read length, Takes read policy length accepted.header ∧
      accepted.stream.held = read.drop length ∧
      ∀ unread, Yields reader unread → unread source = read ++ unread accepted.stream.inner := by
  cases policy with
  | disabled =>
    cases h
    exact ⟨[], 0, .disabled, rfl, fun _ _ => rfl⟩
  | required =>
    obtain ⟨length, header, houtcome, hparse, haccepted⟩ := conclude_eq_ok h
    subst haccepted
    obtain ⟨some, hsome⟩ := hreader
    have hrun : run reader limit (.start source) =
        ((run reader limit (.start source)).1, .ok length) := Prod.ext rfl houtcome
    refine ⟨_, length, ?_, rfl, fun unread hunread => (run_ok hunread open_nil hrun).2⟩
    cases (run_ok hsome open_nil hrun).1 with
    | line _ first => exact .required first hparse

/-- A stream that replays a connection behind its first bytes: `all` are the bytes that the
connection had, and `content` those before the end of its data. -/
structure ReplaysBehind (length : Nat) (all content : Bytes) (stream : Replay Duplex) : Prop where
  /-- What was read behind the first bytes is held. -/
  held : ∃ read, all = read ++ stream.inner.inlet.bytes ∧ length ≤ read.length ∧
    stream.held = read.drop length
  /-- After any operations, the bytes taken off, delivered, held and unread are all bytes. -/
  conserves : ∀ operations : List Operation,
    all.take length ++ stream.delivered operations ++ (stream.after operations).held ++
      (stream.after operations).inner.inlet.bytes = all
  /-- Reading to the end gives the rest of the content. -/
  gives : stream.GivesToEnd (content.drop length)

/-- A stream that holds what was read behind the first bytes of a connection replays it. -/
theorem replaysBehind_of_held {stream : Replay Duplex} {all content read : Bytes} {length : Nat}
    (hlength : length ≤ read.length) (hheld : stream.held = read.drop length)
    (hall : all = read ++ stream.inner.inlet.bytes)
    (hcontent : content = read ++ stream.inner.inlet.content) :
    ReplaysBehind length all content stream := by
  have hbytes : all.take length ++ stream.bytes = all := by
    rw [hall, List.take_append_of_le_length hlength, Replay.bytes, hheld, ← List.append_assoc,
      List.take_append_drop]
  have hgiven : stream.content = content.drop length := by
    rw [hcontent, List.drop_append_of_le_length hlength, ← hheld]
    rfl
  refine ⟨⟨read, hall, hlength, hheld⟩, fun operations => ?_, hgiven ▸ stream.givesToEnd⟩
  rw [List.append_assoc, List.append_assoc, ← Replay.bytes, stream.run_conserves, hbytes]

/-- The stream of an accepted connection replays it behind what was taken off. -/
theorem replaysBehind_of_accepted {limit : Nat} {duplex : Duplex} {policy : Policy}
    {accepted : Accepted Duplex}
    (h : (sniff Duplex.read limit duplex policy).result = .ok accepted) :
    ∃ length, Takes duplex.inlet.bytes policy length accepted.header ∧
      ReplaysBehind length duplex.inlet.bytes duplex.inlet.content accepted.stream := by
  have hbytes := Duplex.conserves_read.yields
  obtain ⟨read, length, htakes, hheld, hunread⟩ := held_of_accepted ⟨_, hbytes⟩ h
  have hall := hunread _ hbytes
  refine ⟨length, ?_, replaysBehind_of_held htakes.le_length hheld hall
    (hunread _ Duplex.feed_read.yields)⟩
  rw [hall]
  exact htakes.append _

/-- **No byte is lost, duplicated or reordered.**  A connection that is accepted, under either
policy, has its header from its first line, or none when none is demanded, and is replayed behind
it.  Without a demanded header nothing is read and nothing fails, whatever the source. -/
theorem sniff_conserves (limit : Nat) :
    (∀ (duplex : Duplex) (policy : Policy) (accepted : Accepted Duplex),
      (sniff Duplex.read limit duplex policy).result = .ok accepted →
      ∃ length, Takes duplex.inlet.bytes policy length accepted.header ∧
        ReplaysBehind length duplex.inlet.bytes duplex.inlet.content accepted.stream) ∧
    ∀ {τ : Type} (reader : Reader τ) (source : τ),
      sniff reader limit source .disabled = ⟨.ok ⟨none, .direct source⟩, .start source⟩ :=
  ⟨fun _ _ _ h => replaysBehind_of_accepted h, fun _ _ => rfl⟩

/-- A transport that brings the first bytes of a request together with the header. -/
def pipelined : Duplex where
  inlet := [.data (Bytes.ofText "PROXY UNKNOWN a b 1 2\r\nGET"), .delay 5, .data [32, 47]]

/-- The bytes that came with the header are held and are given before the others. -/
theorem sniff_pipelined :
    ∃ accepted length, (sniff Duplex.read 9 pipelined .required).result = .ok accepted ∧
      accepted.stream.held = Bytes.ofText "GET" ∧
      Takes pipelined.inlet.bytes .required length accepted.header ∧
      ReplaysBehind length pipelined.inlet.bytes pipelined.inlet.content accepted.stream := by
  have hstep : step Duplex.read 9 (.start pipelined) =
      .ended ⟨Bytes.ofText "PROXY UNKNOWN a b 1 2\r\nGET", 0, 1,
        ⟨[.delay 5, .data [32, 47]], 26, 1, {}⟩⟩ (.ok 23) := rfl
  have hresult : (sniff Duplex.read 9 pipelined .required).result =
      .ok ⟨some ⟨.unknown, ⟨.token "a", 1⟩, ⟨.token "b", 2⟩⟩,
        ⟨Bytes.ofText "GET", ⟨[.delay 5, .data [32, 47]], 26, 1, {}⟩⟩⟩ := by
    rw [sniff, run_of_step_ended hstep]
    rfl
  obtain ⟨length, htakes, hreplays⟩ := (sniff_conserves 9).1 pipelined .required _ hresult
  exact ⟨_, length, hresult, rfl, htakes, hreplays⟩

end ProxyGate.Sniff
