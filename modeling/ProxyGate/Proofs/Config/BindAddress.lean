import ProxyGate.Config.Basic
import ProxyGate.Proofs.Address.Socket

/-!
# What bind addresses are read

`BindAddress.parse` takes the marker off the end and reads what is left: a socket address, or a port
behind an empty host.  There are four groups.

* The marker.  Whatever is read in front of it ends in a port (`exists_port_of_parseAddress`), so the
  marker is taken off once, and nothing is read that still has one.
* Written addresses.  `parse_text` reads the text of every socket address back.
* The empty host.  `emptyHost_agrees_iff` compares `:port` with `0.0.0.0:port`.  They agree but for
  one spelling, a sign in front of the port, which only the empty host takes.
* Listeners.  `policy_of_resolve` says where a listener demands headers, and `marker_read_once` puts
  the laws of the marker together.
-/

namespace ProxyGate

namespace BindAddress

open ProxyGate.Text
open Address (Socket)

/-! ## The marker -/

/-- The marker stands at the end and is taken off, or it does not and the text is left. -/
theorem cutMarker_cases (text : List Char) :
    (∃ kept, text = kept ++ marker ∧ cutMarker text = (kept, true)) ∨
      ¬marker <:+ text ∧ cutMarker text = (text, false) := by
  unfold cutMarker
  cases hcut : dropEnding? marker text with
  | some kept => exact .inl ⟨kept, dropEnding?_eq_some_iff.mp hcut, rfl⟩
  | none =>
    refine .inr ⟨?_, rfl⟩
    rintro ⟨kept, hkept⟩
    rw [dropEnding?_eq_some_iff.mpr hkept.symm] at hcut
    cases hcut

theorem cutMarker_append_marker (kept : List Char) : cutMarker (kept ++ marker) = (kept, true) := by
  rw [cutMarker, dropEnding?_eq_some_iff.mpr rfl]

theorem cutMarker_of_not_suffix {text : List Char} (h : ¬marker <:+ text) :
    cutMarker text = (text, false) := by
  rcases cutMarker_cases text with ⟨kept, rfl, _⟩ | ⟨_, hcut⟩
  · exact absurd (List.suffix_append kept marker) h
  · exact hcut

theorem parse_eq_ok_iff {text : String} {bind : BindAddress} :
    parse text = .ok bind ↔
      parseAddress (cutMarker text.toList).1 = .ok bind.address ∧
        (cutMarker text.toList).2 = bind.marked := by
  unfold parse
  dsimp only
  cases parseAddress (cutMarker text.toList).1 with
  | error cause => simp
  | ok address =>
    obtain ⟨other, marked⟩ := bind
    simp

/-- An address that cannot be read is reported with the whole text. -/
theorem parse_eq_error_iff {text : String} {fault : Fault} :
    parse text = .error fault ↔
      parseAddress (cutMarker text.toList).1 = .error fault.cause ∧ fault.text = text := by
  unfold parse
  dsimp only
  cases parseAddress (cutMarker text.toList).1 with
  | error cause =>
    obtain ⟨other, why⟩ := fault
    simp [eq_comm, and_comm]
  | ok address => simp

theorem marked_iff {text : String} {bind : BindAddress} (h : parse text = .ok bind) :
    bind.marked = true ↔ marker <:+ text.toList := by
  rw [← (parse_eq_ok_iff.mp h).2]
  rcases cutMarker_cases text.toList with ⟨kept, htext, hcut⟩ | ⟨hnone, hcut⟩
  · rw [hcut, htext]
    exact iff_of_true rfl (List.suffix_append kept marker)
  · rw [hcut]
    exact iff_of_false nofun hnone

/-- A port behind an empty host is written in digits, with or without a sign. -/
theorem exists_port_of_signedPort? {text : List Char} {port : UInt16}
    (h : signedPort? text = some port) : ∃ digits, digits <:+ text ∧ portOf? digits = some port := by
  unfold signedPort? at h
  split at h
  · exact ⟨_, List.suffix_cons _ _, h⟩
  · exact ⟨text, List.suffix_rfl, h⟩

/-- What is read in front of the marker ends in a port. -/
theorem exists_port_of_parseAddress {text : List Char} {address : Socket}
    (h : parseAddress text = .ok address) :
    ∃ digits, digits <:+ text ∧ portOf? digits = some address.port := by
  unfold parseAddress at h
  split at h
  · rename_i written
    cases hport : signedPort? written with
    | none =>
      rw [hport] at h
      cases h
    | some port =>
      rw [hport] at h
      cases h
      obtain ⟨digits, hsuffix, hdigits⟩ := exists_port_of_signedPort? hport
      exact ⟨digits, hsuffix.trans (List.suffix_cons _ _), hdigits⟩
  · cases hsocket : Socket.ofChars? text with
    | none =>
      rw [hsocket] at h
      cases h
    | some found =>
      rw [hsocket] at h
      cases h
      exact Socket.exists_port_suffix hsocket

/-- A text that ends in a port does not end in a marker. -/
theorem not_marker_suffix_of_port {text digits : List Char} {port : UInt16}
    (hdigits : digits <:+ text) (hport : portOf? digits = some port) : ¬marker <:+ text := by
  intro hmarker
  obtain ⟨hne, hall, _⟩ := portOf?_eq_some_iff.mp hport
  have hlast : ['P'] <:+ digits :=
    List.suffix_of_suffix_length_le ((List.suffix_cons '|' ['P']).trans hmarker) hdigits
      (List.length_pos_iff.mpr hne)
  exact absurd (hall 'P' (hlast.mem List.mem_cons_self)) (by decide)

theorem not_marker_suffix_of_parseAddress {text : List Char} {address : Socket}
    (h : parseAddress text = .ok address) : ¬marker <:+ text := by
  obtain ⟨digits, hdigits, hport⟩ := exists_port_of_parseAddress h
  exact not_marker_suffix_of_port hdigits hport

theorem toList_append_marker (text : String) : (text ++ "|P").toList = text.toList ++ marker := by
  rw [String.toList_append]
  rfl

/-- A text with the marker behind it is read when the text is, and has no marker itself. -/
theorem parse_append_marker_eq_ok_iff {text : String} {bind : BindAddress} :
    parse (text ++ "|P") = .ok bind ↔
      bind.marked = true ∧ parse text = .ok ⟨bind.address, false⟩ := by
  rw [parse_eq_ok_iff, parse_eq_ok_iff, toList_append_marker, cutMarker_append_marker]
  rcases cutMarker_cases text.toList with ⟨kept, htext, hcut⟩ | ⟨_, hcut⟩
  · refine iff_of_false ?_ ?_
    · intro hread
      exact not_marker_suffix_of_parseAddress hread.1 ⟨kept, htext.symm⟩
    · intro hread
      rw [hcut] at hread
      cases hread.2.2
  · rw [hcut]
    constructor
    · intro hread
      exact ⟨hread.2.symm, hread.1, rfl⟩
    · intro hread
      exact ⟨hread.2.1, hread.1.symm⟩

/-! ## Written addresses -/

theorem parseAddress_of_head?_ne {text : List Char} (h : text.head? ≠ some ':') :
    parseAddress text =
      match Socket.ofChars? text with
      | some address => .ok address
      | none => .error .address := by
  unfold parseAddress
  split
  · exact absurd rfl h
  · rfl

/-- A written socket address is not taken for an empty host. -/
theorem head?_chars_ne_colon (address : Socket) : address.chars.head? ≠ some ':' := by
  cases address with
  | v4 ip port => exact ip.head?_chars_append_ne _ (by decide) (by decide)
  | v6 ip port scope => simp [Socket.chars]

theorem parseAddress_chars (address : Socket) : parseAddress address.chars = .ok address := by
  rw [parseAddress_of_head?_ne (head?_chars_ne_colon address), Socket.ofChars?_chars]

/-- A written socket address is read back, without a marker. -/
theorem parse_text (address : Socket) : parse address.text = .ok ⟨address, false⟩ := by
  have hread := parseAddress_chars address
  have hcut := cutMarker_of_not_suffix (not_marker_suffix_of_parseAddress hread)
  rw [parse_eq_ok_iff, Socket.text, String.toList_ofList, hcut]
  exact ⟨hread, rfl⟩

/-! ## The empty host -/

/-- Two readings come to the same: the same address with the same mark, or a fault each. -/
def SameReading : Except Fault BindAddress → Except Fault BindAddress → Prop
  | .ok bind, .ok other => bind = other
  | .error _, .error _ => True
  | .ok _, .error _ | .error _, .ok _ => False

/-- A text is a port with a sign in front of it, with or without the marker. -/
def IsSigned (text : String) : Prop :=
  ∃ digits port, portOf? digits = some port ∧
    (text = "+" ++ String.ofList digits ∨ text = "+" ++ String.ofList digits ++ "|P")

/-- What stands in front of a colon has no part in the marker. -/
theorem marker_suffix_append_colon_iff {host port : List Char} :
    marker <:+ host ++ ':' :: port ↔ marker <:+ port := by
  have hport : ':' :: port <:+ host ++ ':' :: port := List.suffix_append _ _
  constructor
  · intro hmarker
    by_cases hlength : marker.length ≤ port.length
    · exact List.suffix_of_suffix_length_le hmarker ((List.suffix_cons _ _).trans hport) hlength
    · have hcolon : ':' :: port <:+ marker :=
        List.suffix_of_suffix_length_le hport hmarker (by rw [List.length_cons]; omega)
      exact absurd (hcolon.mem List.mem_cons_self) (by decide)
  · intro hmarker
    exact hmarker.trans ((List.suffix_cons _ _).trans hport)

theorem cutMarker_append_colon (host port : List Char) :
    cutMarker (host ++ ':' :: port) =
      (host ++ ':' :: (cutMarker port).1, (cutMarker port).2) := by
  rcases cutMarker_cases port with ⟨kept, rfl, hcut⟩ | ⟨hnone, hcut⟩
  · rw [hcut, ← List.cons_append, ← List.append_assoc, cutMarker_append_marker]
  · rw [hcut, cutMarker_of_not_suffix (mt marker_suffix_append_colon_iff.mp hnone)]

/-- A sign is no part of a port. -/
theorem portOf?_plus (digits : List Char) : portOf? ('+' :: digits) = none := by
  rw [Option.eq_none_iff_forall_ne_some]
  intro port hport
  exact absurd ((portOf?_eq_some_iff.mp hport).2.1 '+' List.mem_cons_self) (by decide)

/-- Behind an empty host a port is read as behind another one, or it has a sign. -/
theorem signedPort?_cases (text : List Char) :
    signedPort? text = portOf? text ∨
      ∃ digits, text = '+' :: digits ∧ signedPort? text = portOf? digits := by
  unfold signedPort?
  split
  · exact .inr ⟨_, rfl, rfl⟩
  · exact .inl rfl

theorem parse_colon_eq_ok_iff {text : String} {bind : BindAddress} :
    parse (":" ++ text) = .ok bind ↔
      ∃ port, signedPort? (cutMarker text.toList).1 = some port ∧
        bind = ⟨.v4 .unspecified port, (cutMarker text.toList).2⟩ := by
  have hcut := cutMarker_append_colon [] text.toList
  rw [parse_eq_ok_iff, String.toList_append, show ":".toList ++ text.toList =
    [] ++ ':' :: text.toList from rfl, hcut, List.nil_append, parseAddress]
  obtain ⟨address, marked⟩ := bind
  cases signedPort? (cutMarker text.toList).1 with
  | none => simp
  | some port => simp [eq_comm]

theorem parse_unspecified_eq_ok_iff {text : String} {bind : BindAddress} :
    parse ("0.0.0.0:" ++ text) = .ok bind ↔
      ∃ port, portOf? (cutMarker text.toList).1 = some port ∧
        bind = ⟨.v4 .unspecified port, (cutMarker text.toList).2⟩ := by
  have hchars : Address.V4.unspecified.chars = "0.0.0.0".toList := by decide
  have hcut := cutMarker_append_colon Address.V4.unspecified.chars text.toList
  have hhead : (Address.V4.unspecified.chars ++ ':' :: (cutMarker text.toList).1).head? ≠
      some ':' := Address.V4.head?_chars_append_ne _ _ (by decide) (by decide)
  rw [parse_eq_ok_iff, String.toList_append, show "0.0.0.0:".toList ++ text.toList =
    Address.V4.unspecified.chars ++ ':' :: text.toList by rw [hchars]; rfl, hcut,
    parseAddress_of_head?_ne hhead, Socket.ofChars?_v4_colon]
  obtain ⟨address, marked⟩ := bind
  cases portOf? (cutMarker text.toList).1 with
  | none => simp
  | some port => simp [eq_comm]

theorem sameReading_iff {first second : Except Fault BindAddress} :
    SameReading first second ↔ ∀ bind, first = .ok bind ↔ second = .ok bind := by
  unfold SameReading
  split
  · rename_i bind other
    constructor
    · rintro rfl
      exact fun _ => Iff.rfl
    · intro h
      exact (Except.ok.inj ((h bind).mp rfl)).symm
  · simp
  · simp
  · simp

theorem isSigned_iff {text : String} :
    IsSigned text ↔
      ∃ digits port, portOf? digits = some port ∧ (cutMarker text.toList).1 = '+' :: digits := by
  have hsigned : ∀ digits : List Char, ("+" ++ String.ofList digits).toList = '+' :: digits := by
    intro digits
    rw [String.toList_append, String.toList_ofList (l := digits)]
    rfl
  constructor
  · rintro ⟨digits, port, hport, rfl | rfl⟩
    · refine ⟨digits, port, hport, ?_⟩
      rw [hsigned, cutMarker_of_not_suffix
        (not_marker_suffix_of_port (List.suffix_cons '+' digits) hport)]
    · refine ⟨digits, port, hport, ?_⟩
      rw [toList_append_marker, hsigned, cutMarker_append_marker]
  · rintro ⟨digits, port, hport, hkept⟩
    refine ⟨digits, port, hport, ?_⟩
    rcases cutMarker_cases text.toList with ⟨kept, htext, hcut⟩ | ⟨_, hcut⟩
    · rw [hcut] at hkept
      refine .inr (String.toList_inj.mp ?_)
      rw [htext, toList_append_marker, hsigned, ← hkept]
    · rw [hcut] at hkept
      refine .inl (String.toList_inj.mp ?_)
      rw [hsigned, ← hkept]

/-- **An empty host stands for every IPv4 interface, but a port behind it may have a sign.**

* What is read behind an empty host is an address of every IPv4 interface.
* Everything that is read behind `0.0.0.0` is read behind an empty host, and as the same.
* The two readings come to the same exactly when the port has no sign. -/
theorem emptyHost_agrees_iff (text : String) :
    (∀ bind, parse (":" ++ text) = .ok bind → bind.address.ip = .v4 .unspecified) ∧
      (∀ bind, parse ("0.0.0.0:" ++ text) = .ok bind → parse (":" ++ text) = .ok bind) ∧
      (SameReading (parse (":" ++ text)) (parse ("0.0.0.0:" ++ text)) ↔ ¬IsSigned text) := by
  refine ⟨?_, ?_, ?_⟩
  · intro bind hread
    obtain ⟨port, _, rfl⟩ := parse_colon_eq_ok_iff.mp hread
    rfl
  · intro bind hread
    obtain ⟨port, hport, rfl⟩ := parse_unspecified_eq_ok_iff.mp hread
    refine parse_colon_eq_ok_iff.mpr ⟨port, ?_, rfl⟩
    rcases signedPort?_cases (cutMarker text.toList).1 with hsame | ⟨digits, hkept, _⟩
    · rw [hsame, hport]
    · rw [hkept, portOf?_plus] at hport
      cases hport
  · rw [sameReading_iff, isSigned_iff]
    constructor
    · rintro hsame ⟨digits, port, hport, hkept⟩
      have hread : parse (":" ++ text) = .ok ⟨.v4 .unspecified port, (cutMarker text.toList).2⟩ :=
        parse_colon_eq_ok_iff.mpr ⟨port, by rw [hkept]; exact hport, rfl⟩
      obtain ⟨_, hother, _⟩ := parse_unspecified_eq_ok_iff.mp ((hsame _).mp hread)
      rw [hkept, portOf?_plus] at hother
      cases hother
    · intro hplain bind
      rw [parse_colon_eq_ok_iff, parse_unspecified_eq_ok_iff]
      rcases signedPort?_cases (cutMarker text.toList).1 with hsame | ⟨digits, hkept, hsigned⟩
      · rw [hsame]
      · have hnone : portOf? digits = none := by
          rw [Option.eq_none_iff_forall_ne_some]
          intro port hport
          exact hplain ⟨digits, port, hport, hkept⟩
        rw [hsigned, hnone, hkept, portOf?_plus]

/-- A sign is taken behind an empty host and not behind `0.0.0.0`. -/
theorem emptyHost_takes_sign :
    ¬SameReading (parse (":" ++ "+80")) (parse ("0.0.0.0:" ++ "+80")) := by
  have hempty : parse (":" ++ "+80") = .ok ⟨.v4 .unspecified 80, false⟩ := by decide
  have hother : parse ("0.0.0.0:" ++ "+80") = .error ⟨"0.0.0.0:+80", .address⟩ := by decide
  rw [hempty, hother]
  exact id

end BindAddress

/-! ## Listeners -/

namespace Config.Listener

/-- A listener demands a header by its setting, or by the marker of its address. -/
def Demands (listener : Listener) : Prop :=
  listener.proxyProtocol = true ∨ BindAddress.marker <:+ listener.bindAddress.toList

theorem resolve_eq_ok_iff {listener : Listener} {binding : Binding} :
    listener.resolve = .ok binding ↔
      ∃ bind, BindAddress.parse listener.bindAddress = .ok bind ∧
        binding = ⟨bind.address, .ofBool (listener.proxyProtocol || bind.marked),
          listener.maxConnections⟩ := by
  rw [resolve]
  cases BindAddress.parse listener.bindAddress with
  | error fault => simp
  | ok bind => simp [eq_comm]

theorem resolve_eq_error_iff {listener : Listener} {fault : BindAddress.Fault} :
    listener.resolve = .error fault ↔ BindAddress.parse listener.bindAddress = .error fault := by
  rw [resolve]
  cases BindAddress.parse listener.bindAddress with
  | error other => simp
  | ok bind => simp

/-- A listener comes to the policy that it demands. -/
theorem policy_of_resolve {listener : Listener} {binding : Binding}
    (h : listener.resolve = .ok binding) :
    (listener.Demands → binding.policy = .required) ∧
      (¬listener.Demands → binding.policy = .disabled) := by
  obtain ⟨bind, hbind, rfl⟩ := resolve_eq_ok_iff.mp h
  rw [Demands, ← BindAddress.marked_iff hbind, ← Bool.or_eq_true]
  dsimp only [Policy.ofBool]
  constructor
  · exact fun hdemands => if_pos hdemands
  · exact fun hnone => if_neg hnone

theorem policy_eq_required_iff {listener : Listener} {binding : Binding}
    (h : listener.resolve = .ok binding) : binding.policy = .required ↔ listener.Demands := by
  have hpolicy := policy_of_resolve h
  constructor
  · intro hrequired
    by_contra hnone
    rw [hpolicy.2 hnone] at hrequired
    cases hrequired
  · exact hpolicy.1

end Config.Listener

namespace BindAddress

/-! ## The laws of the marker -/

theorem marker_suffix_iff {text : String} :
    marker <:+ text.toList ↔ ∃ kept, text = kept ++ "|P" := by
  constructor
  · rintro ⟨kept, hkept⟩
    refine ⟨String.ofList kept, String.toList_inj.mp ?_⟩
    rw [toList_append_marker, String.toList_ofList, hkept]
  · rintro ⟨kept, rfl⟩
    rw [toList_append_marker]
    exact List.suffix_append _ _

/-- **Socket addresses are read back from their texts, and the marker is read once.**

* The text of an address is read as that address, and with the marker behind it as marked.
* A text with the marker behind it is read exactly when the text is read without one, as the same
  address; so nothing with two markers is read.
* A listener demands headers exactly when its setting says so or the marker is there.
* What cannot be read is reported with the complete text, for a listener too. -/
theorem marker_read_once :
    (∀ address : Address.Socket, parse address.text = .ok ⟨address, false⟩ ∧
      parse (address.text ++ "|P") = .ok ⟨address, true⟩) ∧
    (∀ (text : String) (bind : BindAddress), parse (text ++ "|P") = .ok bind ↔
      bind.marked = true ∧ parse text = .ok ⟨bind.address, false⟩) ∧
    (∀ (text : String) (bind : BindAddress), parse (text ++ "|P" ++ "|P") ≠ .ok bind) ∧
    (∀ (listener : Config.Listener) (binding : Config.Binding), listener.resolve = .ok binding →
      (binding.policy = .required ↔
        listener.proxyProtocol = true ∨ ∃ kept, listener.bindAddress = kept ++ "|P")) ∧
    (∀ (text : String) (fault : Fault), parse text = .error fault → fault.text = text) ∧
    ∀ (listener : Config.Listener) (fault : Fault), listener.resolve = .error fault →
      fault.text = listener.bindAddress := by
  refine ⟨fun address => ⟨parse_text address, ?_⟩, fun text bind => parse_append_marker_eq_ok_iff,
    fun text bind htwice => ?_, fun listener binding hresolve => ?_,
    fun text fault herror => (parse_eq_error_iff.mp herror).2, fun listener fault herror => ?_⟩
  · exact parse_append_marker_eq_ok_iff.mpr ⟨rfl, parse_text address⟩
  · -- the text in front of the last marker would have to be read as unmarked and as marked
    have honce := (parse_append_marker_eq_ok_iff.mp htwice).2
    cases (parse_append_marker_eq_ok_iff.mp honce).1
  · rw [Config.Listener.policy_eq_required_iff hresolve, Config.Listener.Demands, marker_suffix_iff]
  · exact (parse_eq_error_iff.mp (Config.Listener.resolve_eq_error_iff.mp herror)).2

example : parse "[fe80::1%3]:80|P" =
    .ok ⟨.v6 ⟨[0xFE80, 0, 0, 0, 0, 0, 0, 1], rfl⟩ 80 3, true⟩ := by decide

end BindAddress

end ProxyGate
