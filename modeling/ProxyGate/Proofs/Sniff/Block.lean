import ProxyGate.Proofs.Sniff.Reads

/-!
# A search in a block of fixed length

The window of a search only grows, and bytes are cut off it without asking whether they are there.
Here the window is a block of a header's greatest length, filled from the front, and every part of it
is taken by its bounds: `Bytes.slice?` has no answer for bounds that are out of order or out of range.
`Block.search?` is the loop on such a block.  It has no counter either: wherever it goes on, it has
filled more of the block (`left_lt_of_fill?`).

`search?_eq` says that it always has the answer of `run`, as long as the source keeps to the room that
it is given: no bounds are ever wrong.  `search_stays_in_window` puts this together with what is known
of the reads.
-/

namespace ProxyGate

/-- The part of some bytes between two positions, if they are in order and in range. -/
def Bytes.slice? (bytes : Bytes) (first last : Nat) : Option Bytes :=
  if first ≤ last ∧ last ≤ bytes.length then some ((bytes.take last).drop first) else none

theorem Bytes.slice?_eq {bytes : Bytes} {first last : Nat} (horder : first ≤ last)
    (hrange : last ≤ bytes.length) : bytes.slice? first last = some ((bytes.take last).drop first) :=
  if_pos ⟨horder, hrange⟩

theorem Bytes.slice?_eq_some_iff {bytes part : Bytes} {first last : Nat} :
    bytes.slice? first last = some part ↔
      first ≤ last ∧ last ≤ bytes.length ∧ (bytes.take last).drop first = part := by
  simp only [Bytes.slice?, Option.ite_none_right_eq_some, Option.some.injEq, and_assoc]

namespace Sniff

open ProxyGate.Stream

/-! ## Found lines -/

/-- A search that finds a line has the first one of its window, behind the first word. -/
theorem firstLine_of_stopped {window : Bytes} {length : Nat} (h : Stopped window (.ok length)) :
    ¬Header.Deviates window ∧ window.FirstLine length := by
  cases h with
  | line hjudged =>
    cases hjudged with
    | line agrees first => exact ⟨agrees, first⟩

/-- A first line ends with a line ending. -/
theorem slice?_of_firstLine {window : Bytes} {length : Nat} (h : window.FirstLine length) :
    window.slice? (length - Bytes.crlf.length) length = some Bytes.crlf := by
  have hle := h.le_length
  have hlength : (window.take length).length = length := List.length_take_of_le hle
  have hown : Bytes.FirstLine (window.take length) (window.take length).length := by
    rw [← Bytes.firstLine_append_iff (Nat.le_refl _) (window.drop length),
      List.take_append_drop, hlength]
    exact h
  obtain ⟨body, hbody⟩ := Header.eq_append_crlf_of_firstLine hown
  have hsum : body.length + Bytes.crlf.length = length := by
    rw [← List.length_append, ← hbody, hlength]
  rw [Bytes.slice?_eq (Nat.sub_le _ _) hle, hbody, ← hsum, Nat.add_sub_cancel, List.drop_left]

/-! ## The loop on a block -/

/-- A search that reads into a block. -/
structure Block (σ : Type) where
  block : Bytes
  /-- How many bytes of the block were read; the others mean nothing. -/
  filled : Nat
  elapsed : Nat
  reads : Nat
  source : σ

namespace Block

variable {σ : Type}

/-- A search that has read nothing. -/
def start (source : σ) : Block σ := ⟨List.replicate Header.maxLength 0, 0, 0, 0, source⟩

/-- The search after a read that gave none. -/
def skip (search : Block σ) (wait : Nat) (rest : σ) : Block σ :=
  { search with elapsed := search.elapsed + wait, source := rest }

/-- The search after a read that gave bytes, which stand behind those read before. -/
def fill? (search : Block σ) (wait : Nat) (bytes : Bytes) (rest : σ) : Option (Block σ) := do
  let front ← search.block.slice? 0 search.filled
  let back ← search.block.slice? (search.filled + bytes.length) search.block.length
  return ⟨front ++ bytes ++ back, search.filled + bytes.length, search.elapsed + wait,
    search.reads + 1, rest⟩

/-- Judges what was read, of which this many bytes were there before. -/
def judge? (search : Block σ) (before : Nat) : Option Verdict := do
  let window ← search.block.slice? 0 search.filled
  if Header.signatureMismatch window then
    return .refuse .badSignature
  else
    let recent ← search.block.slice? (before - 1) search.filled
    match Bytes.crlfAt? recent with
    | some position => return .line (before - 1 + position + Bytes.crlf.length)
    | none => return if search.filled = Header.maxLength then .refuse .tooLong else .more

/-- Bytes that were put into a block leave less of it. -/
theorem left_lt_of_fill? {search next : Block σ} {wait : Nat} {bytes : Bytes} {rest : σ}
    (hfill : search.fill? wait bytes rest = some next) (hsome : bytes ≠ []) :
    next.block.length - next.filled < search.block.length - search.filled := by
  have hpos : 0 < bytes.length := List.length_pos_iff.mpr hsome
  simp only [fill?, Option.bind_eq_bind, Option.bind_eq_some_iff] at hfill
  obtain ⟨front, hfront, back, hback, hnext⟩ := hfill
  obtain ⟨_, hfilled, rfl⟩ := Bytes.slice?_eq_some_iff.mp hfront
  obtain ⟨hfits, _, rfl⟩ := Bytes.slice?_eq_some_iff.mp hback
  cases hnext
  simp only [List.length_append, List.length_drop, List.length_take]
  omega

/-- Reads into what is left of the block until the search ends. -/
def search? (reader : Reader σ) (limit : Nat) (search : Block σ) :
    Option (Block σ × Except Failure Nat) := do
  let room ← search.block.slice? search.filled search.block.length
  match reader room.length search.source with
  | .never => return ({ search with elapsed := limit }, .error (.timeout limit))
  | .failed wait reason rest =>
    if search.elapsed + wait ≤ limit then return (search.skip wait rest, .error (.io reason))
    else return ({ search with elapsed := limit }, .error (.timeout limit))
  | .got wait bytes rest =>
    if search.elapsed + wait ≤ limit then
      if _hsome : bytes = [] then return (search.skip wait rest, .error (.closed search.filled))
      else
        match _hfill : search.fill? wait bytes rest with
        | none => none
        | some next =>
          match ← next.judge? search.filled with
          | .more => search? reader limit next
          | .line length => return (next, .ok length)
          | .refuse fault => return (next, .error (.refused fault))
    else return ({ search with elapsed := limit }, .error (.timeout limit))
termination_by search.block.length - search.filled
decreasing_by exact left_lt_of_fill? _hfill _hsome

/-- Looks for a header in a block. -/
def sniff? (reader : Reader σ) (limit : Nat) (source : σ) :
    Option (Except Failure (Accepted σ)) := do
  let (last, outcome) ← search? reader limit (start source)
  match outcome with
  | .error failure => return .error failure
  | .ok length =>
    let line ← last.block.slice? 0 length
    match Header.parse line with
    | .error fault => return .error (.refused fault)
    | .ok header =>
      let rest ← last.block.slice? length last.filled
      return .ok ⟨some header, ⟨rest, last.source⟩⟩

/-! ## The window in the block -/

/-- What a search in a block has come to. -/
def view (search : Block σ) : Progress σ :=
  ⟨search.block.take search.filled, search.elapsed, search.reads, search.source⟩

/-- The block has its length and is not filled beyond. -/
structure Sound (search : Block σ) : Prop where
  length : search.block.length = Header.maxLength
  filled : search.filled ≤ Header.maxLength

theorem sound_start (source : σ) : (start source).Sound where
  length := List.length_replicate
  filled := Nat.zero_le _

theorem view_start (source : σ) : (start source).view = .start source := rfl

variable {search : Block σ}

theorem Sound.length_window (h : search.Sound) : search.view.window.length = search.filled := by
  have hlength := h.length
  have hfilled := h.filled
  simp only [view, List.length_take]
  omega

/-- The first bytes of a block are those of the window. -/
theorem Sound.slice?_front (h : search.Sound) {first last : Nat} (horder : first ≤ last)
    (hrange : last ≤ search.filled) :
    search.block.slice? first last = some ((search.view.window.take last).drop first) := by
  have hlength := h.length
  have hfilled := h.filled
  rw [Bytes.slice?_eq horder (by omega), view, List.take_take, Nat.min_eq_left hrange]

/-- From a position on, what was read is the rest of the window. -/
theorem Sound.slice?_back (h : search.Sound) {first : Nat} (hrange : first ≤ search.filled) :
    search.block.slice? first search.filled = some (search.view.window.drop first) := by
  rw [h.slice?_front hrange (Nat.le_refl _), ← h.length_window, List.take_length]

/-- What is left of the block is the room that the window has. -/
theorem Sound.slice?_room (h : search.Sound) :
    ∃ room, search.block.slice? search.filled search.block.length = some room ∧
      room.length = search.view.room := by
  have hlength := h.length
  have hfilled := h.filled
  have hwindow := h.length_window
  refine ⟨_, Bytes.slice?_eq (by omega) (Nat.le_refl _), ?_⟩
  simp only [Progress.room, List.length_drop, List.length_take]
  omega

/-- Bytes for which there is room are put behind the window. -/
theorem Sound.fill? (h : search.Sound) (wait : Nat) {bytes : Bytes} (rest : σ)
    (hroom : bytes.length ≤ search.view.room) :
    ∃ next, search.fill? wait bytes rest = some next ∧ next.Sound ∧
      next.view = search.view.push wait bytes rest := by
  have hlength := h.length
  have hfilled := h.filled
  have hwindow := h.length_window
  have hfits : search.filled + bytes.length ≤ Header.maxLength := by
    unfold Progress.room at hroom
    omega
  have hfront := h.slice?_back (Nat.zero_le _)
  have hback := @Bytes.slice?_eq search.block (search.filled + bytes.length) search.block.length
    (by omega) (Nat.le_refl _)
  rw [List.drop_zero] at hfront
  rw [List.take_length] at hback
  refine ⟨_, by simp only [Block.fill?, hfront, hback]; rfl, ⟨?_, hfits⟩, ?_⟩
  · simp only [List.length_append, List.length_drop, hwindow]
    omega
  · have hread : (search.view.window ++ bytes).length = search.filled + bytes.length := by
      rw [List.length_append, hwindow]
    have hwhole : (search.view.window ++ bytes ++
        search.block.drop (search.filled + bytes.length)).take (search.filled + bytes.length) =
        search.view.window ++ bytes := by
      rw [← hread, List.take_left]
    exact congrArg (Progress.mk · (search.elapsed + wait) (search.reads + 1) rest) hwhole

/-- A block is judged as its window is. -/
theorem Sound.judge? (h : search.Sound) {seen fresh : Bytes}
    (hwindow : search.view.window = seen ++ fresh) :
    search.judge? seen.length = some (judge seen fresh) := by
  have hlength := h.length_window
  rw [hwindow] at hlength
  have hall := h.slice?_back (Nat.zero_le _)
  have hrecent : search.block.slice? (seen.length - 1) search.filled =
      some ((seen ++ fresh).drop (seen.length - 1)) := by
    rw [← hwindow]
    refine h.slice?_back ?_
    rw [← hlength, List.length_append]
    omega
  rw [List.drop_zero, hwindow] at hall
  simp only [Block.judge?, judge, hall, hrecent, hlength, Option.bind_eq_bind, Option.bind_some]
  split
  · rfl
  · cases Bytes.crlfAt? ((seen ++ fresh).drop (seen.length - 1)) <;> rfl

/-! ## The loop in the block -/

variable {reader : Reader σ}

/-- Bytes that come in time are put into the block and judged there. -/
theorem Sound.search?_of_got (h : search.Sound) {limit wait : Nat} {bytes : Bytes} {rest : σ}
    (hfits : Fits reader) (hread : reader search.view.room search.source = .got wait bytes rest)
    (htime : search.elapsed + wait ≤ limit) (hsome : bytes ≠ []) :
    ∃ next, next.Sound ∧ next.view = search.view.push wait bytes rest ∧
      search? reader limit search =
        match judge search.view.window bytes with
        | .more => search? reader limit next
        | .line length => some (next, .ok length)
        | .refuse fault => some (next, .error (.refused fault)) := by
  obtain ⟨room, hroom, hlength⟩ := h.slice?_room
  obtain ⟨next, hfill, hnext, hview⟩ := h.fill? wait rest (hfits _ _ _ _ _ hread)
  have hjudged := hnext.judge? (congrArg Progress.window hview)
  rw [h.length_window] at hjudged
  refine ⟨next, hnext, hview, ?_⟩
  rw [search?]
  simp only [hroom, hlength, hread, if_pos htime, dif_neg hsome, Option.bind_eq_bind,
    Option.bind_some]
  split
  · rename_i hnone
    rw [hfill] at hnone
    cases hnone
  · rename_i filled hsame
    rw [hfill] at hsame
    cases hsame
    rw [hjudged, Option.bind_some]
    cases judge search.view.window bytes <;> rfl

/-- A search in a block goes as the search whose window it holds, and never beyond the block. -/
theorem search?_eq (hfits : Fits reader) (limit : Nat) (hsound : search.Sound)
    (hopen : Open search.view.window) :
    ∃ last, search? reader limit search = some (last, (run reader limit search.view).2) ∧
      last.Sound ∧ last.view = (run reader limit search.view).1 := by
  induction hroom : search.view.room using Nat.strongRecOn generalizing search with
  | ind room ih =>
  obtain ⟨free, hfree, hlength⟩ := hsound.slice?_room
  have hmove := move_step reader limit search.view
  generalize hstep : step reader limit search.view = status at hmove
  cases hmove with
  | timedOut hlate =>
    rw [run_of_step_ended hstep, search?]
    refine ⟨{ search with elapsed := limit }, ?_, ⟨hsound.length, hsound.filled⟩, rfl⟩
    simp only [hfree, hlength, Option.bind_eq_bind, Option.bind_some]
    cases hread : reader search.view.room search.source with
    | never => rfl
    | failed wait reason rest | got wait bytes rest =>
      have hwait : limit < search.elapsed + wait := hlate wait (congrArg answerTime? hread)
      exact if_neg (Nat.not_le_of_lt hwait)
  | @failed wait reason rest hread htime =>
    rw [run_of_step_ended hstep, search?]
    refine ⟨search.skip wait rest, ?_, ⟨hsound.length, hsound.filled⟩, rfl⟩
    have hanswer : reader search.view.room search.source = .failed wait reason rest := hread
    simp only [hfree, hlength, hanswer, Option.bind_eq_bind, Option.bind_some]
    exact if_pos htime
  | @closed wait bytes rest hread htime hnone =>
    rw [run_of_step_ended hstep, search?]
    refine ⟨search.skip wait rest, ?_, ⟨hsound.length, hsound.filled⟩, rfl⟩
    have hanswer : reader search.view.room search.source = .got wait bytes rest := hread
    rw [hfits.take_eq hanswer] at hnone
    simp only [hfree, hlength, hanswer, hnone, hsound.length_window, Option.bind_eq_bind,
      Option.bind_some]
    exact if_pos htime
  | more hread htime hsome hjudge =>
    rw [hfits.take_eq hread] at hsome hjudge hstep
    obtain ⟨next, hnext, hview, hsearch⟩ := hsound.search?_of_got hfits hread htime hsome
    have hless : next.view.room < room := hview ▸ hroom ▸ room_lt_of_step_reading hstep
    have hlater : Open next.view.window := hview ▸ open_of_step_reading hopen hstep
    rw [run_of_step_reading hstep, hsearch, hjudge, ← hview]
    exact ih next.view.room hless hnext hlater rfl
  | line hread htime hsome hjudge | refused hread htime hsome hjudge =>
    rw [hfits.take_eq hread] at hsome hjudge hstep
    obtain ⟨next, hnext, hview, hsearch⟩ := hsound.search?_of_got hfits hread htime hsome
    rw [run_of_step_ended hstep, hsearch, hjudge]
    exact ⟨next, rfl, hnext, hview⟩

/-- Looking for a header in a block comes to the same result, and all bounds are in range. -/
theorem sniff?_eq (hfits : Fits reader) (limit : Nat) (source : σ) :
    sniff? reader limit source = some (sniff reader limit source .required).result := by
  obtain ⟨last, hsearch, hlast, hview⟩ := search?_eq hfits limit (sound_start source) open_nil
  have hopen : Open (Progress.start source).window := open_nil
  obtain ⟨hstopped, _⟩ := run_stopped reader limit hopen
  rw [view_start] at hsearch hview
  rw [sniff?, hsearch, sniff, Report.ofSearch]
  dsimp only
  rw [← hview] at hstopped ⊢
  cases houtcome : (run reader limit (.start source)).2 with
  | error failure => rfl
  | ok length =>
    rw [houtcome] at hstopped
    have hle : length ≤ last.filled :=
      hlast.length_window ▸ (firstLine_of_stopped hstopped).2.le_length
    have hline := hlast.slice?_front (Nat.zero_le _) hle
    have hrest := hlast.slice?_back hle
    rw [List.drop_zero] at hline
    simp only [hline, hrest, Option.bind_eq_bind, Option.bind_some, conclude]
    cases Header.parse (last.view.window.take length) <;> rfl

end Block

/-! ## The bounds of a search -/

variable {σ : Type}

/-- **A search stays inside its window and always ends**, whatever a source gives that keeps to the
room it has, for however long.

* Every read has room for a byte at least.  The data is found closed exactly when a read in time
  gives nothing, with the bytes that were read before.
* There are no more reads than the longest header has bytes, and what they give in time is no longer
  than that; it is the window.
* A line that is found is at least as long as the first word and a line ending.  It is the first line
  of the window, whose line ending is its last part.
* So the parser never finds it empty, too long, without its end or without its first word.
* On a block of fixed length, where each part is taken by its bounds, the search comes to the same
  end with the same window, and the header to the same result.  No bounds are ever out of range.
* If the source answers every read, the search ends by itself: some limit is long enough, and every
  later one changes nothing. -/
theorem search_stays_in_window {reader : Reader σ} (hfits : Fits reader) (limit : Nat)
    (source : σ) :
    let search := run reader limit (.start source)
    let reads := course reader limit (.start source)
    (∀ now ∈ reads, 0 < now.room) ∧
    (∀ received, search.2 = .error (.closed received) ↔ ∃ last ∈ reads, ∃ wait rest,
      reader last.room last.source = .got wait [] rest ∧ last.elapsed + wait ≤ limit ∧
      last.window.length = received) ∧
    reads.length ≤ Header.maxLength ∧
    search.1.window = reads.flatMap (given reader limit) ∧
    search.1.window.length ≤ Header.maxLength ∧
    (∀ length, search.2 = .ok length →
      8 ≤ length ∧ length ≤ search.1.window.length ∧ search.1.window.FirstLine length ∧
      search.1.window.slice? (length - 2) length = some Bytes.crlf ∧
      ∀ fault, Header.parse (search.1.window.take length) = .error fault →
        fault ∉ [Header.Fault.empty, .tooLong, .unterminated, .badSignature]) ∧
    (∃ last, Block.search? reader limit (.start source) = some (last, search.2) ∧
      last.block.length = Header.maxLength ∧ last.filled = search.1.window.length ∧
      last.block.take last.filled = search.1.window) ∧
    Block.sniff? reader limit source = some (sniff reader limit source .required).result ∧
    ((∀ room source, 0 < room → reader room source ≠ .never) → ∃ enough, ∀ later, enough ≤ later →
      run reader later (.start source) = run reader enough (.start source) ∧
      ∀ time, (run reader later (.start source)).2 ≠ .error (.timeout time)) := by
  intro search reads
  have hopen : Open (Progress.start source).window := open_nil
  obtain ⟨hstopped, hlength⟩ := run_stopped reader limit hopen
  refine ⟨fun now hmem => (open_of_mem_course hopen hmem).room_pos, closed_iff hopen,
    length_course_le hopen, window_run hfits limit (.start source), hlength,
    fun length hline => ?_, ?_, Block.sniff?_eq hfits limit source, fun hanswers => ?_⟩
  · have hfound : Stopped search.1.window (.ok length) := hline ▸ hstopped
    obtain ⟨hagrees, hfirst⟩ := firstLine_of_stopped hfound
    exact ⟨Header.signature_length_lt_of_firstLine hagrees hfirst, hfirst.le_length, hfirst,
      slice?_of_firstLine hfirst, fun fault => parse_error_of_stopped hlength hfound⟩
  · obtain ⟨last, hsearch, hlast, hview⟩ :=
      Block.search?_eq hfits limit (Block.sound_start source) open_nil
    rw [Block.view_start] at hsearch hview
    have hwindow : last.view.window = search.1.window := congrArg Progress.window hview
    refine ⟨last, hsearch, hlast.length, ?_, hwindow⟩
    rw [← hwindow, hlast.length_window]
  · obtain ⟨enough, hends⟩ := exists_enough hanswers hopen
    refine ⟨enough, fun later hle => ?_⟩
    have hsame := run_of_le hle (hends enough)
    refine ⟨hsame, fun time => ?_⟩
    rw [hsame]
    exact hends time

/-- A source that begins with a header, goes on for ever, and gives few bytes at a time. -/
def endless : Reader Nat := fun room position =>
  let count := min room 22
  .got 1 ((List.range count).map fun offset =>
    (Bytes.ofText "PROXY UNKNOWN a b 1 2\r\n").getD (position + offset) 120) (position + count)

theorem fits_endless : Fits endless := by
  intro room source wait bytes rest hread
  cases hread
  rw [List.length_map, List.length_range]
  exact Nat.min_le_left _ _

/-- The line ending comes in two reads.  The line is found, with what came along of the data that
never ends. -/
theorem search_stays_in_window_endless :
    let search := run endless 2 (.start 0)
    search.2 = .ok 23 ∧ search.1.window.slice? 21 23 = some Bytes.crlf ∧
      search.1.window = Bytes.ofText "PROXY UNKNOWN a b 1 2\r\nxxxxxxxxxxxxxxxxxxxxx" ∧
      (course endless 2 (.start 0)).length ≤ 107 ∧
      Block.sniff? endless 2 0 = some (sniff endless 2 0 .required).result ∧
      ∃ enough, ∀ later, enough ≤ later →
        run endless later (.start 0) = run endless enough (.start 0) := by
  intro search
  have hfirst : step endless 2 (.start 0) =
      .reading ⟨Bytes.ofText "PROXY UNKNOWN a b 1 2\r", 1, 1, 22⟩ := rfl
  have hsecond : step endless 2 ⟨Bytes.ofText "PROXY UNKNOWN a b 1 2\r", 1, 1, 22⟩ =
      .ended ⟨Bytes.ofText "PROXY UNKNOWN a b 1 2\r\nxxxxxxxxxxxxxxxxxxxxx", 2, 2, 44⟩
        (.ok 23) := rfl
  have hsearch := run_of_step_ended hsecond
  rw [← run_of_step_reading hfirst] at hsearch
  obtain ⟨_, _, hreads, _, _, hline, _, hsniff, hends⟩ :=
    search_stays_in_window fits_endless 2 0
  obtain ⟨_, _, _, hslice, _⟩ := hline 23 (congrArg Prod.snd hsearch)
  obtain ⟨enough, hsame⟩ := hends fun room position hroom => by simp [endless]
  exact ⟨congrArg Prod.snd hsearch, hslice, congrArg (·.1.window) hsearch, hreads, hsniff, enough,
    fun later hle => (hsame later hle).1⟩

end Sniff

end ProxyGate
