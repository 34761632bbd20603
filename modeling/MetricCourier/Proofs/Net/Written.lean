import MetricCourier.Net.Datagram
import MetricCourier.Proofs.Net.Groups

/-!
# Destinations survive being written

A destination is found in two ways: from a configured host and port, each a text of its own, and
from one text that holds both. Each undoes its own way of writing. An address that is printed half
by half is resolved to itself, and one that is printed whole is named by its text. Where a host that
is an address stands before a colon and a port, without the brackets that would part an address of
the sixth version from it, the two ways agree.

In that last case nothing but the last colon tells where the host ends. A text of the fourth version
is a socket address as it stands, since its reader looks no further than the colon. One of the sixth
is not, because no address of the fourth version stands in front and no bracket does; it is cut at
its last colon, and a port holds none.
-/

namespace MetricCourier

/-! ### Addresses by themselves -/

namespace IpAddress

/-- The text of an address denotes that address. -/
theorem ofText?_text (ip : IpAddress) : ofText? ip.text = some ip := by
  cases ip with
  | v4 a => exact ofText?_v4 (Ipv4.read_text_nil a)
  | v6 a => exact ofText?_v6 (Ipv6.read_text_nil a)

end IpAddress

/-! ### Socket addresses -/

namespace SocketAddress

theorem readV4_eq_none {cs : List Char} (h : Ipv4.read cs = none) : readV4 cs = none := by
  rw [readV4, h]
  rfl

theorem readScope_digits (scope : UInt32) (rest : List Char) :
    readScope ('%' :: (Decimal.digits scope.toNat ++ ']' :: rest)) = some (scope, ']' :: rest) := by
  have hdigits : ∀ c ∈ Decimal.digits scope.toNat, Decimal.isDigit c = true :=
    fun c => Decimal.isDigit_of_mem_digits
  -- the bracket is no digit, so the numeral ends there
  have hends : Ends Decimal.isDigit (']' :: rest) := ends_cons rfl rest
  have hread : Decimal.read? (Decimal.digits scope.toNat) = some scope.toNat := by
    rw [Decimal.read?, if_pos ⟨Decimal.digits_ne_nil _, List.all_eq_true.2 hdigits⟩,
      Decimal.value_digits]
  simp only [readScope, takeWhile_append_of_ends hdigits hends,
    dropWhile_append_of_ends hdigits hends, hread, Option.bind_eq_bind, Option.bind_some,
    if_pos scope.toNat_lt_size, UInt32.ofNat_toNat]

theorem toList_withPort (host : String) (p : UInt16) :
    (host ++ ":" ++ Decimal.natural p.toNat).toList =
      host.toList ++ ':' :: Decimal.digits p.toNat := by
  simp [Decimal.toList_natural]

/-- An address of the fourth version before a colon and a port: its reader stops at the colon. -/
theorem ofText?_host_v4 {host : String} {a : Ipv4} (p : UInt16)
    (h : Ipv4.read host.toList = some (a, [])) :
    ofText? (host ++ ":" ++ Decimal.natural p.toNat) = some (.v4 a p) := by
  have hread : readV4 (host ++ ":" ++ Decimal.natural p.toNat).toList = some (.v4 a p, []) := by
    rw [toList_withPort, readV4, Ipv4.local_read, h]
    simp only [Option.map_some, List.nil_append, Option.bind_eq_bind, Option.bind_some,
      Port.read_digits_nil]
    rfl
  rw [ofText?, hread]
  rfl

/-- The scope of an address as it is written. -/
def scopeText (scope : UInt32) : List Char :=
  if scope = 0 then [] else '%' :: Decimal.digits scope.toNat

theorem readScope_scopeText (scope : UInt32) (rest : List Char) :
    readScope (scopeText scope ++ ']' :: rest) = some (scope, ']' :: rest) := by
  unfold scopeText
  split
  · next h =>
    rw [h]
    rfl
  · exact readScope_digits scope rest

theorem ends_scopeText (scope : UInt32) (rest : List Char) :
    Ends Ipv6.inAddress (scopeText scope ++ ']' :: rest) := by
  unfold scopeText
  split
  · exact ends_cons rfl rest
  · exact ends_cons rfl _

theorem ofText?_text_v6 (a : Ipv6) (p : UInt16) (scope : UInt32) :
    ofText? (text (.v6 a p scope)) = some (.v6 a p scope) := by
  have htext : (text (.v6 a p scope)).toList =
      '[' :: (a.text.toList ++ (scopeText scope ++ ']' :: ':' :: Decimal.digits p.toNat)) := by
    by_cases hscope : scope = 0
    · simp [text, scopeText, hscope, Decimal.toList_natural]
    · simp [text, scopeText, hscope, Decimal.toList_natural]
  -- the reader of the fourth version is asked first, and stops at the bracket
  have hv4 : ∀ more, Ipv4.read ('[' :: more) = none := fun more =>
    Ipv4.read_eq_none fun h => nomatch h
  -- behind the bracket come the address, its scope, the closing bracket and the port
  have hread : readV6 (text (.v6 a p scope)).toList = some (.v6 a p scope, []) := by
    rw [htext, readV6]
    simp only [skipChar, if_true, Option.bind_eq_bind, Option.bind_some,
      Ipv6.read_text a (ends_scopeText scope _), readScope_scopeText,
      Port.read_digits_nil]
    rfl
  rw [ofText?, hread, htext, readV4_eq_none (hv4 _)]
  rfl

/-- **The text of a socket address denotes that address.** -/
theorem ofText?_text (a : SocketAddress) : ofText? a.text = some a := by
  cases a with
  | v4 a p => exact ofText?_host_v4 p (Ipv4.read_text_nil a)
  | v6 a p scope => exact ofText?_text_v6 a p scope

theorem named_text (lookup : Lookup) (a : SocketAddress) : named lookup a.text = .ok a := by
  rw [named, ofText?_text]

/-! ### A host and a port with a colon between them -/

theorem splitAtLastColon_append (host : List Char) {behind : List Char} (h : ':' ∉ behind) :
    splitAtLastColon (host ++ ':' :: behind) = some (host, behind) := by
  -- the last colon is the first from behind
  have hreverse : (host ++ ':' :: behind).reverse = behind.reverse ++ ':' :: host.reverse := by
    simp
  have hkind : ∀ c ∈ behind.reverse, decide (c ≠ ':') = true := by
    intro c hc
    apply decide_eq_true
    rintro rfl
    exact h (List.mem_reverse.1 hc)
  have hends : Ends (fun c => decide (c ≠ ':')) (':' :: host.reverse) := ends_cons rfl _
  simp only [splitAtLastColon, hreverse, takeWhile_append_of_ends hkind hends,
    dropWhile_append_of_ends hkind hends, List.reverse_reverse]

/-- A host of the sixth version with a port and no brackets is cut at its last colon. -/
theorem named_host_v6 (lookup : Lookup) {host : String} {a : Ipv6} (p : UInt16)
    (h : Ipv6.read host.toList = some (a, [])) :
    named lookup (host ++ ":" ++ Decimal.natural p.toNat) = .ok (.v6 a p 0) := by
  have hcolon : ':' ∉ Decimal.digits p.toNat := by
    intro hmem
    cases Decimal.isDigit_of_mem_digits hmem
  -- as it stands it is no socket address of either version
  have hnone4 : readV4 (host.toList ++ ':' :: Decimal.digits p.toNat) = none := by
    apply readV4_eq_none
    rw [Ipv4.local_read, Ipv6.readV4_of_read h]
    rfl
  have hnone6 : readV6 (host.toList ++ ':' :: Decimal.digits p.toNat) = none := by
    have hhead := Ipv6.head_of_read h
    cases hhost : host.toList with
    | nil => rfl
    | cons c cs =>
      rw [hhost] at hhead
      have hc : c ≠ '[' := fun heq => hhead (congrArg some heq)
      rw [readV6, List.cons_append, skipChar, if_neg hc]
      rfl
  -- what stands before the last colon is the host again, and that is an address
  have hresolved : lookup.resolve host = .ok (some (.v6 a)) := by
    rw [Lookup.resolve, IpAddress.ofText?_v6 h]
  rw [named, ofText?, toList_withPort, hnone4, hnone6]
  simp only [splitAtLastColon_append _ hcolon, Port.ofText?_digits, String.ofList_toList,
    hresolved]
  rfl

theorem named_host (lookup : Lookup) {host : String} {ip : IpAddress} (p : UInt16)
    (h : IpAddress.ofText? host = some ip) :
    named lookup (host ++ ":" ++ Decimal.natural p.toNat) = .ok (ip.withPort p) := by
  obtain ⟨a, rfl, ha⟩ | ⟨a, rfl, ha⟩ := IpAddress.read_of_ofText? h
  · rw [named, ofText?_host_v4 p ha]
    rfl
  · exact named_host_v6 lookup p ha

end SocketAddress

/-! ### Configured destinations -/

theorem Blank.isBlank_of_isDigit {c : Char} (h : Decimal.isDigit c = true) :
    Blank.isBlank c = false := by
  simp only [Decimal.isDigit, Bool.and_eq_true, decide_eq_true_eq] at h
  rw [Bool.eq_false_iff, Blank.isBlank, Ne, CharTable.contains_iff Blank.ascending_table]
  -- none of the ranges of blanks reaches into the digits
  simp only [Blank.table, List.mem_cons, List.not_mem_nil, or_false, exists_eq_or_imp,
    exists_eq_left]
  omega

/-- Nothing is taken off a text that holds no blank. -/
theorem Blank.trim_eq_self {cs : List Char} (h : ∀ c ∈ cs, Blank.isBlank c = false) :
    Blank.trim cs = cs := by
  have hfront : Ends Blank.isBlank cs := fun c hc => h c (List.mem_of_head? hc)
  have hback : Ends Blank.isBlank cs.reverse :=
    fun c hc => h c (List.mem_reverse.1 (List.mem_of_head? hc))
  rw [Blank.trim, dropWhile_of_ends hfront, dropWhile_of_ends hback, List.reverse_reverse]

/-- The source has the host as it is given and the port as it is printed. -/
structure Given (source : String → Option String) (host : String) (port : UInt16) : Prop where
  host : source hostKey = some host
  port : source portKey = some (Decimal.natural port.toNat)

namespace Destination

variable {lookup : Lookup} {source : String → Option String} {host : String} {ip : IpAddress}
variable {port : UInt16}

theorem usablePort?_natural (hport : port ≠ 0) :
    usablePort? (Decimal.natural port.toNat) = some port := by
  have htrim : Blank.trim (Decimal.digits port.toNat) = Decimal.digits port.toNat :=
    Blank.trim_eq_self fun c hc => Blank.isBlank_of_isDigit (Decimal.isDigit_of_mem_digits hc)
  rw [usablePort?, Decimal.toList_natural, htrim, Port.ofText?_digits]
  exact Option.filter_some_pos (decide_eq_true hport)

/-- A host that is an address and a port that can be sent to are taken as they are, and nothing is
logged but the result. -/
theorem resolve_given (hhost : IpAddress.ofText? host = some ip) (hport : port ≠ 0)
    (h : Given source host port) :
    resolve lookup (.ofSource source) =
      (ip.withPort port, [.destinationResolved (ip.withPort port)]) := by
  -- nothing is looked up and nothing is replaced by a default
  have hip : resolveHost lookup host = (ip, []) := by
    simp only [resolveHost, Lookup.resolve, hhost]
  have hp : resolvePort (some (Decimal.natural port.toNat)) = (port, []) := by
    simp only [resolvePort, usablePort?_natural hport]
  simp only [resolve, Settings.ofSource, h.host, h.port, hp, Option.getD_some, hip]
  rfl

end Destination

/-- **A destination survives being written as text.** Printed half by half it is resolved to itself
without a warning, and printed whole it is named by its text. A host in any spelling of an address
is resolved to an address that is resolved to itself again when it is printed, and the host and the
port with a colon between them name the same. -/
theorem Destination.survives_writing (lookup : Lookup) (network : Network) {port : UInt16}
    (hport : port ≠ 0) :
    (∀ ip : IpAddress,
      (∀ source, Given source ip.text port →
        Destination.resolve lookup (.ofSource source) =
          (ip.withPort port, [.destinationResolved (ip.withPort port)])) ∧
      Sender.toNamed network lookup (ip.withPort port).text =
        .ok { network, destination := ip.withPort port }) ∧
    ∀ host ip, IpAddress.ofText? host = some ip → ∀ source, Given source host port →
      let address := (Destination.resolve lookup (.ofSource source)).1
      address = ip.withPort port ∧
      (∀ again, Given again address.ip.text address.port →
        (Destination.resolve lookup (.ofSource again)).1 = address) ∧
      Sender.toNamed network lookup (host ++ ":" ++ Decimal.natural port.toNat) =
        .ok { network, destination := address } := by
  -- an address with a port has the halves that it was made of
  have hip : ∀ ip : IpAddress, (ip.withPort port).ip = ip := by
    intro ip
    cases ip <;> rfl
  have hp : ∀ ip : IpAddress, (ip.withPort port).port = port := by
    intro ip
    cases ip <;> rfl
  constructor
  · intro ip
    constructor
    · intro source h
      exact Destination.resolve_given (IpAddress.ofText?_text ip) hport h
    · rw [Sender.toNamed, SocketAddress.named_text]
      rfl
  · -- whatever the spelling, from here on there is only the address
    intro host ip hhost source h
    rw [Destination.resolve_given hhost hport h]
    refine ⟨rfl, ?_, ?_⟩
    · intro again hagain
      rw [hip, hp] at hagain
      rw [Destination.resolve_given (IpAddress.ofText?_text ip) hport hagain]
    · rw [Sender.toNamed, SocketAddress.named_host lookup port hhost]
      rfl

/-- A mixed spelling in upper case, with superfluous zeros. -/
theorem Destination.mixedSpelling_survives :
    let source := fun key =>
      if key = hostKey then some "::00:FfFF:192.0.2.7" else some (Decimal.natural 8125)
    let address : SocketAddress := .v6 ⟨[0, 0, 0, 0, 0, 0xffff, 0xc000, 0x207], rfl⟩ 8125 0
    (8125 : UInt16) ≠ 0 ∧
    IpAddress.ofText? "::00:FfFF:192.0.2.7" = some address.ip ∧
    Given source "::00:FfFF:192.0.2.7" 8125 ∧
    (Destination.resolve (.localOnly "") (.ofSource source)).1 = address ∧
    Sender.toNamed .isolated (.localOnly "")
      ("::00:FfFF:192.0.2.7" ++ ":" ++ Decimal.natural (8125 : UInt16).toNat) =
        .ok { network := .isolated, destination := address } := by
  intro source address
  have hport : (8125 : UInt16) ≠ 0 := by decide
  have hhost : IpAddress.ofText? "::00:FfFF:192.0.2.7" = some address.ip := by decide
  have hgiven : Given source "::00:FfFF:192.0.2.7" 8125 := ⟨rfl, rfl⟩
  obtain ⟨haddress, -, hnamed⟩ :=
    (Destination.survives_writing (.localOnly "") .isolated hport).2 _ _ hhost source hgiven
  rw [haddress] at hnamed
  exact ⟨hport, hhost, hgiven, haddress, hnamed⟩

end MetricCourier
