import ProxyGate.Proofs.Header.Opening
import ProxyGate.Proofs.Sniff.Chunking
import ProxyGate.Proofs.Sniff.Conservation

/-!
# A search and the parser agree

The search rejects early, by the first word, by the length of its window and by the first line
ending, and hands on only what is left.  The parser knows nothing of that.  This file shows that the
two never part: what comes in time is accepted exactly when it opens with a line that the parser
takes, a rejection stands whatever comes behind, and a line that is handed on is never refused for
what the search has already looked at.

`settles_iff_opens` is the agreement for what data comes to, `not_opens_of_stopped` and
`parse_error_of_stopped` are about the window of any search, and `sniff_agrees_with_parse` puts them
together for transports.
-/

namespace ProxyGate.Sniff

open ProxyGate.Stream

variable {σ : Type}

/-! ## What data comes to -/

/-- Data settles into a header exactly when it opens with it. -/
theorem settles_iff_opens {limit : Nat} {data : Bytes} {ending : Script.Ending}
    {progress : Progress σ} {outcome : Except Failure Nat}
    (h : Settles limit data ending progress.window outcome) (header : Header) :
    (conclude progress outcome).map Accepted.header = .ok (some header) ↔
      Header.Opens data header := by
  cases h with
  | deviates hdeviates =>
    refine iff_of_false (by simp [conclude, Except.map]) ?_
    exact fun hopens => hopens.agrees hdeviates
  | @line length _ hfirst hfits hsame =>
    rw [header_conclude_ok, hsame, Header.opens_iff_firstLine]
    constructor
    · intro hresult
      refine ⟨length, hfits, hfirst, ?_⟩
      cases hparse : Header.parse (data.take length) with
      | error fault =>
        rw [hparse] at hresult
        cases hresult
      | ok found =>
        rw [hparse] at hresult
        cases hresult
        rfl
    · rintro ⟨other, _, hother, hparse⟩
      rw [hfirst.unique hother, hparse]
      rfl
  | tooLong _ hnone _ =>
    refine iff_of_false (by simp [conclude, Except.map]) ?_
    rw [Header.opens_iff_firstLine]
    rintro ⟨length, hfits, hfirst, _⟩
    exact hnone length hfits hfirst
  | ended _ hnone _ =>
    refine iff_of_false (by simp [conclude, Except.map]) ?_
    rw [Header.opens_iff_firstLine]
    rintro ⟨length, _, hfirst, _⟩
    exact hnone length hfirst

/-- What is accepted where a header is demanded has a header. -/
theorem exists_header_of_conclude {progress : Progress σ} {outcome : Except Failure Nat} :
    (∃ accepted, conclude progress outcome = .ok accepted) ↔
      ∃ header, (conclude progress outcome).map Accepted.header = .ok (some header) := by
  constructor
  · rintro ⟨accepted, h⟩
    obtain ⟨_, header, _, _, haccepted⟩ := conclude_eq_ok h
    exact ⟨header, by rw [h, haccepted]; rfl⟩
  · rintro ⟨header, h⟩
    cases hconclude : conclude progress outcome with
    | error failure =>
      rw [hconclude] at h
      cases h
    | ok accepted => exact ⟨accepted, rfl⟩

/-- What a search comes to is settled by what comes within its limit. -/
theorem settles_of_sniff (duplex : Duplex) (limit : Nat) :
    Settles limit (duplex.inlet.contentBy limit) (duplex.inlet.endingBy limit)
      (run Duplex.read limit (.start duplex)).1.window
      (run Duplex.read limit (.start duplex)).2 := by
  have hopen : Open (Progress.start duplex).window := open_nil
  exact run_settlesBy Duplex.feedBy_read hopen (Nat.zero_le limit) trivial

/-- A transport is accepted with a header exactly when what comes in time opens with it. -/
theorem header_sniff_required_iff (duplex : Duplex) (limit : Nat) (header : Header) :
    (sniff Duplex.read limit duplex .required).result.map Accepted.header = .ok (some header) ↔
      Header.Opens (duplex.inlet.contentBy limit) header :=
  settles_iff_opens (settles_of_sniff duplex limit) header

/-! ## The window of a search -/

/-- A rejection by the window stands, whatever comes behind it. -/
theorem not_opens_of_stopped {window : Bytes} {fault : Header.Fault}
    (h : Stopped window (.error (.refused fault))) (later : Bytes) (header : Header) :
    ¬Header.Opens (window ++ later) header := by
  cases h with
  | refused hjudged =>
    cases hjudged with
    | deviates hdeviates => exact Header.not_opens_of_deviates hdeviates later header
    | full _ endless length => exact Header.not_opens_of_endless length endless later header

/-- A line that a search hands on is refused, if at all, for its words or for a byte that is not
ASCII. -/
theorem parse_error_of_stopped {window : Bytes} {length : Nat} {fault : Header.Fault}
    (hlength : window.length ≤ Header.maxLength) (h : Stopped window (.ok length))
    (hparse : Header.parse (window.take length) = .error fault) :
    fault ∉ [Header.Fault.empty, .tooLong, .unterminated, .badSignature] := by
  cases h with
  | line hjudged =>
    cases hjudged with
    | line agrees first =>
      have htake : (window.take length).length = length := List.length_take_of_le first.le_length
      have hwhole : window.take length ++ window.drop length = window :=
        List.take_append_drop length window
      refine Header.parse_eq_error_of_firstLine (fun hdeviates => agrees ?_) ?_ ?_ hparse
      · rw [← hwhole]
        exact hdeviates.append _
      · rw [← Bytes.firstLine_append_iff (Nat.le_refl _) (window.drop length), hwhole, htake]
        exact first
      · have hle := first.le_length
        omega

/-! ## The agreement -/

/-- **A search and the parser agree** on every transport, with `data` for what comes in time.

* At most one first part of any bytes is a header line.
* The transport is accepted exactly when `data` opens with a header line, and with that header.
* When the search ends with a fault of its own, what it has read is its window, and no header line
  opens the window, whatever comes behind.
* When the search hands a line on, the parser finds it neither empty nor too long, and finds its
  end and its first word. -/
theorem sniff_agrees_with_parse (duplex : Duplex) (limit : Nat) :
    let data := duplex.inlet.contentBy limit
    let search := run Duplex.read limit (.start duplex)
    let result := (sniff Duplex.read limit duplex .required).result
    (∀ (bytes line line' : Bytes) (header header' : Header), line <+: bytes → line' <+: bytes →
      Header.parse line = .ok header → Header.parse line' = .ok header' → line = line') ∧
    ((∃ accepted, result = .ok accepted) ↔ ∃ header, Header.Opens data header) ∧
    (∀ header, result.map Accepted.header = .ok (some header) ↔ Header.Opens data header) ∧
    (∀ fault, search.2 = .error (.refused fault) →
      duplex.inlet.bytes = search.1.window ++ search.1.source.inlet.bytes ∧
      ∀ later header, ¬Header.Opens (search.1.window ++ later) header) ∧
    (∀ length fault, search.2 = .ok length →
      Header.parse (search.1.window.take length) = .error fault →
      fault ∉ [Header.Fault.empty, .tooLong, .unterminated, .badSignature]) := by
  intro data search result
  have hopen : Open (Progress.start duplex).window := open_nil
  obtain ⟨hstopped, hlength⟩ := run_stopped Duplex.read limit hopen
  have hheader := header_sniff_required_iff duplex limit
  refine ⟨fun bytes line line' header header' hline hline' h h' =>
    Header.eq_of_prefix_of_parse hline hline' h h', ?_, hheader, ?_, ?_⟩
  · rw [← exists_congr hheader]
    exact exists_header_of_conclude
  · intro fault hfault
    refine ⟨run_conserves Duplex.conserves_read.yields hopen (Or.inr ⟨fault, hfault⟩), ?_⟩
    rw [hfault] at hstopped
    exact not_opens_of_stopped hstopped
  · intro length fault hline hparse
    rw [hline] at hstopped
    exact parse_error_of_stopped hlength hstopped hparse

/-- A transport that differs from a header in its sixth byte. -/
def wrongBlank : Duplex where
  inlet := [.data (Bytes.ofText "PROXY"), .delay 2, .data (Bytes.ofText "\tUNKNOWN a b 1 2\r\n")]

/-- A transport with a header line but for its last word. -/
def wrongPort : Duplex where
  inlet := [.data (Bytes.ofText "PROXY UNKNOWN a b 1 x\r\nGET")]

/-- A rejection by the sixth byte stands for ever, a line is handed on to be refused for its last
word, and in front of a request there is only one header line. -/
theorem sniff_agrees_with_parse_wrongBlank :
    (∀ later header,
      ¬Header.Opens (Bytes.ofText "PROXY\tUNKNOWN a b 1 2\r\n" ++ later) header) ∧
    Header.Fault.badPort .destinationPort "x" ∉
      [Header.Fault.empty, .tooLong, .unterminated, .badSignature] ∧
    ∀ line header, line <+: Bytes.ofText "PROXY UNKNOWN a b 1 2\r\nGET" →
      Header.parse line = .ok header → line = Bytes.ofText "PROXY UNKNOWN a b 1 2\r\n" := by
  have hfirst : step Duplex.read 2 (.start wrongBlank) =
      .reading ⟨Bytes.ofText "PROXY", 0, 1, ⟨wrongBlank.inlet.tail, 5, 1, {}⟩⟩ := rfl
  have hsecond : step Duplex.read 2
      ⟨Bytes.ofText "PROXY", 0, 1, ⟨wrongBlank.inlet.tail, 5, 1, {}⟩⟩ =
      .ended ⟨Bytes.ofText "PROXY\tUNKNOWN a b 1 2\r\n", 2, 2, ⟨[], 23, 2, {}⟩⟩
        (.error (.refused .badSignature)) := rfl
  have hrefused := run_of_step_ended hsecond
  rw [← run_of_step_reading hfirst] at hrefused
  have hfound : step Duplex.read 2 (.start wrongPort) =
      .ended ⟨Bytes.ofText "PROXY UNKNOWN a b 1 x\r\nGET", 0, 1, ⟨[], 26, 1, {}⟩⟩ (.ok 23) := rfl
  have hline := run_of_step_ended hfound
  obtain ⟨_, _, _, hrejects, _⟩ := sniff_agrees_with_parse wrongBlank 2
  obtain ⟨honce, _, _, _, hhands⟩ := sniff_agrees_with_parse wrongPort 2
  refine ⟨?_, ?_, fun line header hprefix hparse => ?_⟩
  · have hwindow := (hrejects .badSignature (congrArg Prod.snd hrefused)).2
    rwa [hrefused] at hwindow
  · refine hhands 23 _ (congrArg Prod.snd hline) ?_
    rw [hline]
    rfl
  · exact honce _ _ _ _ _ hprefix (List.prefix_append _ (Bytes.ofText "GET")) hparse rfl

end ProxyGate.Sniff
