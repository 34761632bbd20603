import Mathlib.Data.List.Basic
import MetricCourier.Proofs.Net.Written
import MetricCourier.Proofs.Text.Quoting

/-!
# Destinations are always found

Whatever host and port are configured, there is a destination. A port that cannot be used is replaced
by 8125, a host that has no address by the address of the machine itself, each with one warning that
quotes what was given, and neither has an effect on the other. `Resolution` puts down what that means
clause by clause, and `Destination.resolves_every_source` is the proof.

Nothing of that is said with the help of the readers and writers that the resolution uses. Which
texts are ports is said by how they are written: `Port.Spelling` is such a text taken apart into
blanks, a plus sign that may be missing, zeros that may be missing, the numeral, and blanks again.
The blanks are listed (`Blank.whiteSpace`). Which hosts are addresses is `IpAddress.Literal`, what
quoting yields is `Quotes`, and the words of the warnings stand in `Port.complaint` and
`Lookup.complaint`.

The reader of ports takes the blanks off both ends first; what is left then is what stands between
them, because neither a plus sign nor a digit is blank (`Blank.trim_between`), and nothing but blanks
has gone (`Blank.exists_around_trim`). So the reader takes the spellings and nothing else
(`Destination.usablePort?_eq_some_iff`).
-/

namespace MetricCourier

/-! ### Blanks at both ends -/

namespace Blank

/-- The characters that Unicode has as white space, one by one. -/
def whiteSpace : List Char :=
  ['\t', '\n', '\x0b', '\x0c', '\r', ' ', '\u0085', '\u00a0', '\u1680', '\u2000', '\u2001',
   '\u2002', '\u2003', '\u2004', '\u2005', '\u2006', '\u2007', '\u2008', '\u2009', '\u200a',
   '\u2028', '\u2029', '\u202f', '\u205f', '\u3000']

/-- **The blanks are the white space of Unicode.** -/
theorem isBlank_iff {c : Char} : isBlank c = true ↔ c ∈ whiteSpace := by
  constructor
  · intro h
    -- every character in the ranges of the table is in the list
    have hlisted : ∀ range ∈ table, ∀ n ∈ List.range' range.1 (range.2 + 1 - range.1),
        Char.ofNat n ∈ whiteSpace := by decide
    obtain ⟨range, hrange, hfirst, hlast⟩ := (CharTable.contains_iff ascending_table).mp h
    have hc := hlisted range hrange c.toNat (List.mem_range'_1.mpr (by omega))
    rwa [Char.ofNat_toNat] at hc
  · intro h
    -- and every character in the list is in a range
    have hblank : whiteSpace.all isBlank = true := by decide
    exact List.all_eq_true.mp hblank c h

variable {cs before after : List Char}

/-- Blanks around a text that neither begins nor ends with one are taken off, and nothing else. -/
theorem trim_between (hcs : cs ≠ []) (hfirst : Ends isBlank cs) (hlast : Ends isBlank cs.reverse)
    (hbefore : ∀ c ∈ before, isBlank c = true) (hafter : ∀ c ∈ after, isBlank c = true) :
    trim (before ++ cs ++ after) = cs := by
  -- what is in front ends at the text, and what is behind it ends there as well
  have hfront : Ends isBlank (cs ++ after) := by
    intro c hc
    rw [List.head?_append_of_ne_nil _ hcs] at hc
    exact hfirst c hc
  have hback : ∀ c ∈ after.reverse, isBlank c = true := fun c hc => hafter c (List.mem_reverse.1 hc)
  rw [trim, List.append_assoc, dropWhile_append_of_ends hbefore hfront, List.reverse_append,
    dropWhile_append_of_ends hback hlast, List.reverse_reverse]

/-- Only blanks are taken off. -/
theorem exists_around_trim (cs : List Char) :
    ∃ before after, cs = before ++ trim cs ++ after ∧ (∀ c ∈ before, isBlank c = true) ∧
      ∀ c ∈ after, isBlank c = true := by
  have htaken : ∀ text : List Char, ∀ c ∈ text.takeWhile isBlank, isBlank c = true :=
    fun text c hc => List.mem_takeWhile_imp hc
  -- the runs that are dropped at either end
  refine ⟨cs.takeWhile isBlank,
    ((cs.dropWhile isBlank).reverse.takeWhile isBlank).reverse, ?_, htaken cs, ?_⟩
  · rw [trim, List.append_assoc, ← List.reverse_append, List.takeWhile_append_dropWhile,
      List.reverse_reverse, List.takeWhile_append_dropWhile]
  · intro c hc
    exact htaken _ c (List.mem_reverse.1 hc)

end Blank

/-! ### How a port is written -/

/-- A way to write a port number that can be sent to: between blanks, perhaps behind a plus sign and
behind superfluous zeros, stands its numeral. -/
structure Port.Spelling (n : ℕ) where
  /-- The blanks in front. -/
  before : List Char
  /-- Is there a plus sign? -/
  plus : Bool
  /-- How many superfluous zeros there are. -/
  zeros : ℕ
  /-- The blanks at the end. -/
  after : List Char
  blank_before : ∀ c ∈ before, c ∈ Blank.whiteSpace
  blank_after : ∀ c ∈ after, c ∈ Blank.whiteSpace
  pos : 0 < n
  le : n ≤ 65535

namespace Port

namespace Spelling

variable {n : ℕ}

/-- The digits, with the zeros in front. -/
def digits (s : Spelling n) : List Char := List.replicate s.zeros '0' ++ Nat.toDigits 10 n

/-- What stands between the blanks. -/
def core (s : Spelling n) : List Char := (if s.plus then ['+'] else []) ++ s.digits

/-- The text that is written. -/
def text (s : Spelling n) : List Char := s.before ++ s.core ++ s.after

theorem digits_ne_nil (s : Spelling n) : s.digits ≠ [] :=
  List.append_ne_nil_of_right_ne_nil _ Nat.toDigits_ne_nil

theorem isDigit_digits (s : Spelling n) : ∀ c ∈ s.digits, Decimal.isDigit c = true :=
  fun _ => Decimal.isDigit_zeros

/-- A plus sign is no blank, and a digit is none. -/
theorem isBlank_core (s : Spelling n) : ∀ c ∈ s.core, Blank.isBlank c = false := by
  intro c hc
  -- the sign, or a digit
  obtain hsign | hdigit := List.mem_append.1 hc
  · split at hsign
    · rw [List.mem_singleton.1 hsign]
      decide
    · cases hsign
  · exact Blank.isBlank_of_isDigit (s.isDigit_digits c hdigit)

theorem trim_text (s : Spelling n) : Blank.trim s.text = s.core :=
  Blank.trim_between (List.append_ne_nil_of_right_ne_nil _ s.digits_ne_nil)
    (fun c hc => s.isBlank_core c (List.mem_of_head? hc))
    (fun c hc => s.isBlank_core c (List.mem_reverse.1 (List.mem_of_head? hc)))
    (fun c hc => Blank.isBlank_iff.mpr (s.blank_before c hc))
    (fun c hc => Blank.isBlank_iff.mpr (s.blank_after c hc))

end Spelling

/-- The text is a way to write the port number. -/
def Spelled (text : String) (n : ℕ) : Prop := ∃ s : Spelling n, text.toList = s.text

/-- The text is no way to write a port number. -/
def Unusable (text : String) : Prop := ∀ n, ¬ Spelled text n

theorem ofDigits?_eq_some_iff {cs : List Char} {port : UInt16} :
    ofDigits? cs = some port ↔
      (cs ≠ [] ∧ ∀ c ∈ cs, Decimal.isDigit c = true) ∧ Decimal.value cs = port.toNat := by
  have hsize : port.toNat ≤ 65535 := Nat.le_of_lt_succ port.toNat_lt
  simp only [ofDigits?, Decimal.read?, List.all_eq_true]
  split
  · next hdigits =>
    rw [Option.bind_eq_bind, Option.bind_some, and_iff_right hdigits]
    split
    · next hle =>
      rw [Option.some.injEq, ← UInt16.toNat_inj, UInt16.toNat_ofNat_of_lt' (Nat.lt_succ_of_le hle)]
    · next hlt =>
      -- too large a number is no port, and a port is not too large
      refine ⟨fun h => ?_, fun hvalue => absurd (hvalue ▸ hsize) hlt⟩
      cases h
  · next hdigits =>
    refine ⟨fun h => ?_, fun h => absurd h.1 hdigits⟩
    cases h

/-- A text of digits is read as such: it has no plus sign in front. -/
theorem ofText?_of_isDigit {cs : List Char} (h : ∀ c ∈ cs, Decimal.isDigit c = true) :
    ofText? cs = ofDigits? cs := by
  unfold ofText?
  split
  · cases h '+' List.mem_cons_self
  · rfl

/-- A port is read from digits, perhaps with a plus sign in front. -/
theorem exists_digits_of_ofText? {cs : List Char} {port : UInt16} (h : ofText? cs = some port) :
    ∃ (plus : Bool) (digits : List Char),
      cs = (if plus then ['+'] else []) ++ digits ∧ ofDigits? digits = some port := by
  unfold ofText? at h
  split at h
  · next digits => exact ⟨true, digits, rfl, h⟩
  · exact ⟨false, cs, rfl, h⟩

theorem Spelling.ofText?_core {port : UInt16} (s : Spelling port.toNat) :
    ofText? s.core = some port := by
  have hdigits : ofDigits? s.digits = some port :=
    ofDigits?_eq_some_iff.mpr ⟨⟨s.digits_ne_nil, s.isDigit_digits⟩, Decimal.value_zeros _ _⟩
  rw [core]
  split
  · exact hdigits
  · rw [List.nil_append, ofText?_of_isDigit s.isDigit_digits, hdigits]

end Port

namespace Destination

/-- **The usable ports are those that are spelled.** -/
theorem usablePort?_eq_some_iff {given : String} {port : UInt16} :
    usablePort? given = some port ↔ Port.Spelled given port.toNat := by
  rw [usablePort?, Option.filter_eq_some_iff, decide_eq_true_iff]
  constructor
  · rintro ⟨hread, hport⟩
    -- the parts of the spelling, from the outside in
    obtain ⟨before, after, hgiven, hbefore, hafter⟩ := Blank.exists_around_trim given.toList
    obtain ⟨plus, digits, hcore, hdigits⟩ := Port.exists_digits_of_ofText? hread
    obtain ⟨⟨hnil, hall⟩, hvalue⟩ := Port.ofDigits?_eq_some_iff.mp hdigits
    obtain ⟨zeros, hzeros⟩ := Decimal.exists_zeros hnil hall
    have hpos : 0 < port.toNat := by
      rw [Nat.pos_iff_ne_zero]
      exact fun hzero => hport (UInt16.toNat_inj.mp hzero)
    rw [hcore, hzeros, hvalue] at hgiven
    exact ⟨⟨before, plus, zeros, after, fun c hc => Blank.isBlank_iff.mp (hbefore c hc),
      fun c hc => Blank.isBlank_iff.mp (hafter c hc), hpos, Nat.le_of_lt_succ port.toNat_lt⟩, hgiven⟩
  · -- a spelling is read as its number, which is not zero
    rintro ⟨s, hs⟩
    refine ⟨by rw [hs, s.trim_text, s.ofText?_core], ?_⟩
    rintro rfl
    exact absurd s.pos (Nat.lt_irrefl 0)

/-- What is spelled is taken. -/
theorem resolvePort_of_spelled {text : String} {n : ℕ} (h : Port.Spelled text n) :
    ∃ port : UInt16, port.toNat = n ∧ resolvePort (some text) = (port, []) := by
  obtain ⟨s, hs⟩ := h
  have hnat : (UInt16.ofNat n).toNat = n := UInt16.toNat_ofNat_of_lt' (Nat.lt_succ_of_le s.le)
  have husable : usablePort? text = some (UInt16.ofNat n) :=
    usablePort?_eq_some_iff.mpr (hnat.symm ▸ ⟨s, hs⟩)
  exact ⟨_, hnat, by simp only [resolvePort, husable]⟩

/-- What is not spelled is replaced. -/
theorem resolvePort_of_unusable {text : String} (h : Port.Unusable text) :
    resolvePort (some text) = (defaultPort, [.portUnusable text]) := by
  have hnone : usablePort? text = none := by
    cases hport : usablePort? text with
    | none => rfl
    | some port => exact absurd (usablePort?_eq_some_iff.mp hport) (h port.toNat)
  simp only [resolvePort, hnone]

theorem resolvePort_default {given : Option String}
    (h : ∀ text, given = some text → Port.Unusable text) :
    (resolvePort given).1 = defaultPort := by
  cases given with
  | none => rfl
  | some text => rw [resolvePort_of_unusable (h text rfl)]

theorem resolvePort_ne_zero (given : Option String) : (resolvePort given).1 ≠ 0 := by
  by_cases h : ∀ text, given = some text → Port.Unusable text
  · rw [resolvePort_default h]
    decide
  · -- some number is spelled, and no spelling is one of zero
    push Not at h
    obtain ⟨text, rfl, hspelled⟩ := h
    obtain ⟨n, ⟨s, hs⟩⟩ := not_forall_not.mp hspelled
    obtain ⟨port, hnat, hport⟩ := resolvePort_of_spelled ⟨s, hs⟩
    rw [hport]
    rintro rfl
    exact absurd s.pos (hnat ▸ Nat.lt_irrefl 0)

end Destination

/-! ### What is found and what is logged -/

/-- The warning about a port that cannot be used, with the port quoted. -/
def Port.complaint (quoted : String) : String :=
  "invalid statsd port defined: " ++ quoted ++ ", using 8125"

namespace Lookup

/-- The host is no address, and no address is found for it as a name. -/
def Unresolvable (lookup : Lookup) (host : String) : Prop :=
  (∀ ip, ¬ IpAddress.Literal host ip) ∧ ∀ ip, lookup host ≠ .ok (some ip)

/-- The warning about a host that has no address, with the host quoted. -/
def complaint (lookup : Lookup) (host quoted : String) : String :=
  match lookup host with
  | .error reason =>
    "invalid statsd host defined: " ++ quoted ++ " (" ++ reason ++ "), using loopback"
  | .ok _ => "statsd host " ++ quoted ++ " resolved to no addresses, using loopback"

end Lookup

/-- The text is a socket address: a literal, in brackets if it is of the sixth version, a colon and
the port. -/
inductive SocketAddress.Shown : SocketAddress → String → Prop
  | v4 {ip : String} {a : Ipv4} (port : UInt16) (h : IpAddress.Literal ip (.v4 a)) :
      Shown (.v4 a port) (ip ++ ":" ++ Nat.repr port.toNat)
  | v6 {ip : String} {a : Ipv6} (port : UInt16) (h : IpAddress.Literal ip (.v6 a)) :
      Shown (.v6 a port 0) ("[" ++ ip ++ "]:" ++ Nat.repr port.toNat)

/-- What is logged about a setting: one warning that quotes it as it was given, if it was given and
is of no use, and otherwise nothing. -/
structure Warns (useless : String → Prop) (complaint : String → String → String)
    (given : Option String) (records : List LogRecord) : Prop where
  once : ∀ text, given = some text → useless text →
    ∃ r quoted, records = [r] ∧ r.level = .warn ∧ Quotes text quoted ∧
      r.message = complaint text quoted
  silent : (∀ text, given = some text → ¬ useless text) → records = []

/-- What a source of settings comes to: the address, and what is logged on the way. -/
structure Resolution (lookup : Lookup) (source : String → Option String)
    (address : SocketAddress) (log : List LogRecord) : Prop where
  port_ne_zero : address.port ≠ 0
  port_of_spelled : ∀ given n, source portKey = some given → Port.Spelled given n →
    address.port.toNat = n
  /-- Without a port that can be used it is the default one. -/
  port_default : (∀ given, source portKey = some given → Port.Unusable given) →
    address.port.toNat = 8125
  ip_of_literal : ∀ host ip, source hostKey = some host → IpAddress.Literal host ip →
    address.ip = ip
  /-- Only a host that is no address is looked up. -/
  ip_of_name : ∀ host ip, source hostKey = some host → (∀ ip, ¬ IpAddress.Literal host ip) →
    lookup host = .ok (some ip) → address.ip = ip
  /-- Without a host, with the name of the machine itself or with a host that nobody knows it is
  the address of the machine itself. -/
  ip_default : source hostKey = none ∨ source hostKey = some "localhost" ∨
    (∃ host, source hostKey = some host ∧ lookup.Unresolvable host) →
    address.ip = .v4 ⟨127, 0, 0, 1⟩
  /-- First what there is to say about the port, then about the host, then the result. -/
  log_eq : ∃ portLog hostLog note, log = portLog ++ hostLog ++ [note] ∧
    Warns Port.Unusable (fun _ => Port.complaint) (source portKey) portLog ∧
    Warns lookup.Unresolvable lookup.complaint (source hostKey) hostLog ∧
    note.level = .debug ∧ note.message = "statsd destination resolved to " ++ address.text ∧
    address.Shown address.text

theorem SocketAddress.shown_withPort (ip : IpAddress) (port : UInt16) :
    (ip.withPort port).Shown (ip.withPort port).text := by
  have hliteral := IpAddress.ofText?_eq_some_iff.mp (IpAddress.ofText?_text ip)
  cases ip with
  | v4 a =>
    rw [IpAddress.withPort, text, Decimal.natural_eq]
    exact .v4 port hliteral
  | v6 a =>
    have htext : (text (.v6 a port 0)) = "[" ++ a.text ++ "]:" ++ Nat.repr port.toNat := by
      rw [text, if_pos rfl, String.append_empty, Decimal.natural_eq]
    rw [IpAddress.withPort, htext]
    exact .v6 port hliteral

namespace Lookup

variable {lookup : Lookup} {host : String}

theorem resolve_of_literal {ip : IpAddress} (h : IpAddress.Literal host ip) :
    lookup.resolve host = .ok (some ip) := by
  rw [resolve, IpAddress.ofText?_eq_some_iff.mpr h]

theorem resolve_of_name (h : ∀ ip, ¬ IpAddress.Literal host ip) :
    lookup.resolve host = lookup host := by
  have hnone : IpAddress.ofText? host = none := by
    rw [Option.eq_none_iff_forall_ne_some]
    exact fun ip hip => h ip (IpAddress.ofText?_eq_some_iff.mp hip)
  rw [resolve, hnone]

/-- A host that is of some use has an address. -/
theorem exists_of_resolvable (h : ¬ lookup.Unresolvable host) :
    ∃ ip, lookup.resolve host = .ok (some ip) := by
  -- a literal is its own address, and any other host is looked up
  by_cases hname : ∀ ip, ¬ IpAddress.Literal host ip
  · rw [resolve_of_name hname]
    exact not_forall_not.mp fun hnone => h ⟨hname, hnone⟩
  · obtain ⟨ip, hip⟩ := not_forall_not.mp hname
    exact ⟨ip, resolve_of_literal hip⟩

end Lookup

namespace Destination

theorem message_portUnusable (text : String) :
    (LogRecord.portUnusable text).message = Port.complaint (Quoted.quote text) := by
  -- the number of the default port is written out by the program
  have hnumeral : Decimal.natural defaultPort.toNat = "8125" := by
    rw [(rfl : defaultPort.toNat = 8125), Decimal.natural_eq]
    decide
  have hend : ", using " ++ Decimal.natural defaultPort.toNat = ", using 8125" := by
    rw [hnumeral]
    decide
  calc (LogRecord.portUnusable text).message
    _ = "invalid statsd port defined: " ++ Quoted.quote text ++ ", using " ++
        Decimal.natural defaultPort.toNat := rfl
    _ = "invalid statsd port defined: " ++ Quoted.quote text ++ ", using 8125" := by
        rw [String.append_assoc, hend]

theorem warns_port (given : Option String) :
    Warns Port.Unusable (fun _ => Port.complaint) given (resolvePort given).2 := by
  constructor
  · rintro text rfl huseless
    have hreplaced := congrArg Prod.snd (resolvePort_of_unusable huseless)
    exact ⟨_, _, hreplaced, rfl, quotes_iff.mpr rfl, message_portUnusable text⟩
  · -- a port that was given is spelled, and one that was not is no reason to warn
    intro huseful
    cases given with
    | none => rfl
    | some text =>
      obtain ⟨n, hn⟩ := not_forall_not.mp (huseful text rfl)
      obtain ⟨port, -, hport⟩ := resolvePort_of_spelled hn
      rw [hport]

variable {lookup : Lookup}

theorem resolveHost_of_resolved {host : String} {ip : IpAddress}
    (h : lookup.resolve host = .ok (some ip)) : resolveHost lookup host = (ip, []) := by
  simp only [resolveHost, h]

/-- A host that nobody knows is replaced, and the one warning about it quotes it, whether the
look-up failed or came back empty. -/
theorem resolveHost_of_unresolvable {host : String} (h : lookup.Unresolvable host) :
    ∃ r, resolveHost lookup host = (.v4 .loopback, [r]) ∧ r.level = .warn ∧
      r.message = lookup.complaint host (Quoted.quote host) := by
  obtain ⟨hname, hnone⟩ := h
  have hresolve : lookup.resolve host = lookup host := Lookup.resolve_of_name hname
  rw [Lookup.complaint]
  -- the look-up came back empty, or it failed and said why
  cases hfound : lookup host with
  | ok found =>
    cases found with
    | some ip => exact absurd hfound (hnone ip)
    | none =>
      exact ⟨.hostWithoutAddress host, by simp only [resolveHost, hresolve, hfound], rfl, rfl⟩
  | error reason =>
    exact ⟨.hostUnknown host reason, by simp only [resolveHost, hresolve, hfound], rfl, rfl⟩

/-- The name of the machine itself is no address, so it is looked up. -/
theorem resolve_defaultHost (hself : lookup defaultHost = .ok (some (.v4 .loopback))) :
    lookup.resolve defaultHost = .ok (some (.v4 .loopback)) := by
  have hname : IpAddress.ofText? defaultHost = none := by decide
  rw [Lookup.resolve, hname]
  exact hself

theorem warns_host (hself : lookup defaultHost = .ok (some (.v4 .loopback)))
    (given : Option String) :
    Warns lookup.Unresolvable lookup.complaint given
      (resolveHost lookup (given.getD defaultHost)).2 := by
  constructor
  · rintro host rfl huseless
    obtain ⟨r, hhost, hlevel, hmessage⟩ := resolveHost_of_unresolvable huseless
    exact ⟨r, _, congrArg Prod.snd hhost, hlevel, quotes_iff.mpr rfl, hmessage⟩
  · -- without a host the name of the machine itself is looked up, and that is known
    intro huseful
    cases given with
    | none =>
      rw [Option.getD_none, resolveHost_of_resolved (resolve_defaultHost hself)]
    | some host =>
      obtain ⟨ip, hip⟩ := Lookup.exists_of_resolvable (huseful host rfl)
      rw [Option.getD_some, resolveHost_of_resolved hip]

theorem resolveHost_default (hself : lookup defaultHost = .ok (some (.v4 .loopback)))
    {given : Option String}
    (h : given = none ∨ given = some "localhost" ∨
      ∃ host, given = some host ∧ lookup.Unresolvable host) :
    (resolveHost lookup (given.getD defaultHost)).1 = .v4 .loopback := by
  have hlocal := resolveHost_of_resolved (resolve_defaultHost hself)
  -- the name of the machine itself is looked up whether it was given or not
  obtain rfl | rfl | ⟨host, rfl, huseless⟩ := h
  · rw [Option.getD_none, hlocal]
  · exact congrArg Prod.fst hlocal
  · obtain ⟨r, hreplaced, -⟩ := resolveHost_of_unresolvable huseless
    rw [Option.getD_some, hreplaced]

/-! ### Both together -/

theorem port_resolve (lookup : Lookup) (source : String → Option String) :
    (resolve lookup (.ofSource source)).1.port = (resolvePort (source portKey)).1 :=
  SocketAddress.port_withPort _ _

theorem ip_resolve (lookup : Lookup) (source : String → Option String) :
    (resolve lookup (.ofSource source)).1.ip =
      (resolveHost lookup ((source hostKey).getD defaultHost)).1 :=
  SocketAddress.ip_withPort _ _

/-- Each clause is about one half only, and the logs of the halves stand one after the other. -/
theorem resolution (hself : lookup defaultHost = .ok (some (.v4 .loopback)))
    (source : String → Option String) :
    Resolution lookup source (resolve lookup (.ofSource source)).1
      (resolve lookup (.ofSource source)).2 where
  port_ne_zero := by
    rw [port_resolve]
    exact resolvePort_ne_zero _
  port_of_spelled given n hgiven hn := by
    obtain ⟨port, hnat, hport⟩ := resolvePort_of_spelled hn
    rw [port_resolve, hgiven, hport, hnat]
  port_default h := by
    rw [port_resolve, resolvePort_default h]
    rfl
  ip_of_literal host ip hhost hip := by
    rw [ip_resolve, hhost, Option.getD_some,
      resolveHost_of_resolved (Lookup.resolve_of_literal hip)]
  ip_of_name host ip hhost hname hip := by
    have hresolved := (Lookup.resolve_of_name hname).trans hip
    rw [ip_resolve, hhost, Option.getD_some, resolveHost_of_resolved hresolved]
  ip_default h := by
    rw [ip_resolve, resolveHost_default hself h]
    rfl
  log_eq := ⟨_, _, _, rfl, warns_port _, warns_host hself _, rfl, rfl,
    SocketAddress.shown_withPort _ _⟩

/-- **There is always a destination.** On a machine that knows its own name, every source of settings
comes to an address with a port that can be sent to; host and port are replaced each by itself, with
one warning each, and the address is logged. The port does not depend on what the host is, nor
the IP address on what the port is. -/
theorem resolves_every_source (hself : lookup defaultHost = .ok (some (.v4 .loopback)))
    (source : String → Option String) :
    Resolution lookup source (resolve lookup (.ofSource source)).1
      (resolve lookup (.ofSource source)).2 ∧
    ∀ source' : String → Option String,
      (source' portKey = source portKey →
        (resolve lookup (.ofSource source')).1.port = (resolve lookup (.ofSource source)).1.port) ∧
      (source' hostKey = source hostKey →
        (resolve lookup (.ofSource source')).1.ip = (resolve lookup (.ofSource source)).1.ip) := by
  refine ⟨resolution hself source, fun source' => ⟨fun hport => ?_, fun hhost => ?_⟩⟩
  · rw [port_resolve, port_resolve, hport]
  · rw [ip_resolve, ip_resolve, hhost]

/-- The port 80 with a plus sign, leading zeros and blanks that are not all ASCII. -/
def paddedPort : Port.Spelling 80 where
  before := ['\u3000', '\t']
  plus := true
  zeros := 3
  after := ['\n', '\u2003']
  blank_before := by simp [Blank.whiteSpace]
  blank_after := by simp [Blank.whiteSpace]
  pos := by decide
  le := by decide

/-- Such a port is used although nobody knows the host that goes with it, and the only warning is
about the host. A host that is an address is used although the port is too large, and the only
warning is about the port. -/
theorem paddedPort_resolved :
    let lookup := Lookup.localOnly "no name service"
    let source := fun host port key => some (if key = hostKey then host else port)
    let resolved := fun host port => resolve lookup (.ofSource (source host port))
    let unknown := resolved "nowhere.invalid" (String.ofList paddedPort.text)
    let tooLarge := resolved "::1" " 65536\n"
    lookup defaultHost = .ok (some (.v4 .loopback)) ∧
    (unknown.1.port.toNat = 80 ∧ unknown.1.ip = .v4 ⟨127, 0, 0, 1⟩ ∧
      ∃ warning note, unknown.2 = [warning, note] ∧ warning.level = .warn ∧
        warning.message =
          "invalid statsd host defined: \"nowhere.invalid\" (no name service), using loopback" ∧
        note.level = .debug) ∧
    tooLarge.1.port.toNat = 8125 ∧ tooLarge.1.ip = .v6 ⟨[0, 0, 0, 0, 0, 0, 0, 1], rfl⟩ ∧
      ∃ warning note, tooLarge.2 = [warning, note] ∧ warning.level = .warn ∧
        warning.message = "invalid statsd port defined: \" 65536\\n\", using 8125" ∧
        note.level = .debug := by
  intro lookup source resolved unknown tooLarge
  have hself : lookup defaultHost = .ok (some (.v4 .loopback)) := rfl
  have hspelled : Port.Spelled (String.ofList paddedPort.text) 80 :=
    ⟨paddedPort, String.toList_ofList⟩
  -- it is spelled by no number, since the reader does not take it
  have hunusable : Port.Unusable " 65536\n" := by
    rintro n hn
    obtain ⟨port, -, hport⟩ := resolvePort_of_spelled hn
    cases hport
  have hliteral : IpAddress.Literal "::1" (.v6 ⟨[0, 0, 0, 0, 0, 0, 0, 1], rfl⟩) :=
    IpAddress.ofText?_eq_some_iff.mp (by decide)
  have huseless : lookup.Unresolvable "nowhere.invalid" := by
    refine ⟨fun ip hip => ?_, fun ip hip => nomatch hip⟩
    cases (IpAddress.ofText?_eq_some_iff.mpr hip).symm.trans (by decide : _ = none)
  refine ⟨hself, ?_, ?_⟩
  · obtain ⟨h, -⟩ :=
      resolves_every_source hself (source "nowhere.invalid" (String.ofList paddedPort.text))
    obtain ⟨portLog, hostLog, note, hlog, hport, hhost, hlevel, -⟩ := h.log_eq
    obtain ⟨warning, quoted, rfl, hwarn, hquoted, hmessage⟩ := hhost.once _ rfl huseless
    -- the port is of use, so the log is about the host only
    have hsilent : portLog = [] := hport.silent fun text htext h => by
      cases htext
      exact h 80 hspelled
    rw [hsilent, List.nil_append] at hlog
    rw [quotes_iff.mp hquoted] at hmessage
    exact ⟨h.port_of_spelled _ 80 rfl hspelled, h.ip_default (.inr (.inr ⟨_, rfl, huseless⟩)),
      warning, note, hlog, hwarn, hmessage.trans (by decide), hlevel⟩
  · obtain ⟨h, -⟩ := resolves_every_source hself (source "::1" " 65536\n")
    obtain ⟨portLog, hostLog, note, hlog, hport, hhost, hlevel, -⟩ := h.log_eq
    obtain ⟨warning, quoted, rfl, hwarn, hquoted, hmessage⟩ := hport.once _ rfl hunusable
    -- the other way round
    have hsilent : hostLog = [] := hhost.silent fun host hgiven h => by
      cases hgiven
      exact h.1 _ hliteral
    rw [hsilent, List.append_nil] at hlog
    rw [quotes_iff.mp hquoted] at hmessage
    exact ⟨h.port_default fun text htext => by cases htext; exact hunusable,
      h.ip_of_literal _ _ rfl hliteral, warning, note, hlog, hwarn,
      hmessage.trans (by decide), hlevel⟩

end Destination

end MetricCourier
