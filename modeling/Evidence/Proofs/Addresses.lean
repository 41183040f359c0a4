import Evidence.Kubernetes.Routing
import Evidence.Proofs.Utf8Parts
import Mathlib.Data.List.TakeWhile

/-!
# Addresses

A question whose names hold no mark of an address is read back from its address.

Main definitions:

- `Kubernetes.IsName`: a name as clusters allow it.
- `Kubernetes.Address.IsPlain`: a name without the marks that part an address.

Main results:

- `FormEncoded.read_write`: the encoded form of a text stands for the text.
- `Kubernetes.Request.ofAddress?_pods`: where a question for the pods of a namespace leads.
- `Kubernetes.Request.ofAddress?_log`: a question for a log of plain names leads to itself.
-/

namespace Evidence

/-! ## Form encoding -/

namespace FormEncoded

variable {b : UInt8} {c : Char} {t : Text}

/-- Upper-case hexadecimal digits are read back. -/
theorem digit?_toUpper_digitChar {n : Nat} (h : n < 16) :
    Hex.digit? (Nat.digitChar n).toUpper = some n := by
  have hdigits : ∀ d : Fin 16, Hex.digit? (Nat.digitChar d.val).toUpper = some d.val := by decide
  exact hdigits ⟨n, h⟩

/-- The two digits of a byte are read back. -/
theorem byte?_toUpper (b : UInt8) :
    Hex.byte? (Nat.digitChar (b.toNat / 16)).toUpper (Nat.digitChar (b.toNat % 16)).toUpper
      = some b := by
  have hb := b.toNat_lt
  exact Hex.byte?_eq_some (digit?_toUpper_digitChar (by omega))
    (digit?_toUpper_digitChar (by omega))

/-- The character of a plain byte has the code point of the byte. -/
theorem toNat_of_isPlain (h : isPlain b = true) :
    (Char.ofNat b.toNat).toNat = b.toNat ∧ b.toNat < 0x80 := by
  simp only [isPlain, Bool.and_eq_true, decide_eq_true_eq] at h
  have hlt : b.toNat < 0x80 := h.1
  exact ⟨Utf8.toNat_ofNat (.inl (by omega)), hlt⟩

/-- A character that is not plain is not that of a plain byte. -/
theorem ne_of_isPlain (h : isPlain b = true) (hc : isPlain (UInt8.ofNat c.toNat) = false) :
    Char.ofNat b.toNat ≠ c := by
  rintro rfl
  rw [(toNat_of_isPlain h).1, UInt8.ofNat_toNat, h] at hc
  cases hc

/-- A byte is read back from what is written for it. -/
theorem bytes_writeByte_append (b : UInt8) (rest : Text) :
    bytes (writeByte b ++ rest) = b :: bytes rest := by
  rw [writeByte]
  split
  · next hplain =>
    have hplus : Char.ofNat b.toNat ≠ '+' := ne_of_isPlain hplain (by decide)
    have hpercent : Char.ofNat b.toNat ≠ '%' := ne_of_isPlain hplain (by decide)
    obtain ⟨hchar, hlt⟩ := toNat_of_isPlain hplain
    have hencode : Utf8.encodeChar (Char.ofNat b.toNat) = [b] := by
      rw [Utf8.encodeChar_of_lt_0x80 (by omega), hchar, UInt8.ofNat_toNat]
    have hbytes : bytes (Char.ofNat b.toNat :: rest)
        = Utf8.encodeChar (Char.ofNat b.toNat) ++ bytes rest := by
      rw [bytes]
      · exact hplus
      · intro high low more heq
        exact absurd heq hpercent
    rw [List.singleton_append, hbytes, hencode]
    rfl
  · split
    · next hspace =>
      subst hspace
      rfl
    · show bytes ('%' :: _ :: _ :: rest) = _
      rw [bytes, byte?_toUpper]

/-- The encoded form of a text stands for its bytes. -/
theorem bytes_write (t : Text) : bytes (write t) = Utf8.encode t := by
  rw [write]
  induction Utf8.encode t with
  | nil => rfl
  | cons b rest ih => rw [List.flatMap_cons, bytes_writeByte_append, ih]

/-- The encoded form of a text stands for the text. -/
@[simp] theorem read_write (t : Text) : read (write t) = t := by
  rw [read, bytes_write, Utf8.decodeLossy_encode]

/-- The marks of an address do not occur in an encoded form. -/
theorem not_mem_write (hc : c = '#' ∨ c = '&') : c ∉ write t := by
  have hplain : isPlain (UInt8.ofNat c.toNat) = false := by rcases hc with rfl | rfl <;> decide
  have hrest : c ≠ '+' ∧ c ≠ '%' := by rcases hc with rfl | rfl <;> decide
  have hdigit : ∀ d : Fin 16, c ≠ (Nat.digitChar d.val).toUpper := by
    rcases hc with rfl | rfl <;> decide
  intro hmem
  rcases List.mem_flatMap.1 hmem with ⟨b, -, hb⟩
  have hlt := b.toNat_lt
  rw [writeByte] at hb
  split at hb
  · next h => exact ne_of_isPlain h hplain (List.mem_singleton.1 hb).symm
  · split at hb
    · exact hrest.1 (List.mem_singleton.1 hb)
    · simp only [Hex.ofByte, List.map_cons, List.map_nil, List.mem_cons, List.not_mem_nil,
        or_false] at hb
      rcases hb with h | h | h
      · exact hrest.2 h
      · exact hdigit ⟨b.toNat / 16, by omega⟩ h
      · exact hdigit ⟨b.toNat % 16, by omega⟩ h

end FormEncoded

namespace Kubernetes

/-! ## Names in addresses -/

/-- A name without the marks that part an address. -/
structure IsPlain (name : Text) : Prop where
  sharp : '#' ∉ name
  query : '?' ∉ name
  slash : '/' ∉ name

/-- A name as clusters allow it: not empty, of lower-case letters, digits, hyphens and points. -/
structure IsName (name : Text) : Prop where
  ne_nil : name ≠ []
  chars : ∀ c ∈ name, c.isLower ∨ c.isDigit ∨ c = '-' ∨ c = '.'

theorem IsName.isPlain {name : Text} (h : IsName name) : IsPlain name where
  sharp hmem := absurd (h.chars _ hmem) (by decide)
  query hmem := absurd (h.chars _ hmem) (by decide)
  slash hmem := absurd (h.chars _ hmem) (by decide)

/-! ## Parts of an address -/

namespace Address

variable {front query t : Text}

/-- Whether a character ends the path of an address. -/
def isEnd (c : Char) : Bool :=
  c == '#' || c == '?'

/-- Whether a text does not end the path of an address. -/
def isClear (t : Text) : Bool :=
  t.all fun c => !isEnd c

@[simp] theorem isClear_append (s t : Text) : isClear (s ++ t) = (isClear s && isClear t) :=
  List.all_append

@[simp] theorem isClear_cons (c : Char) (t : Text) : isClear (c :: t) = (!isEnd c && isClear t) :=
  rfl

theorem isClear_iff : isClear t = true ↔ '#' ∉ t ∧ '?' ∉ t := by
  simp only [isClear, List.all_eq_true, isEnd, Bool.not_eq_true', Bool.or_eq_false_iff,
    beq_eq_false_iff_ne]
  constructor
  · exact fun h => ⟨fun hmem => (h _ hmem).1 rfl, fun hmem => (h _ hmem).2 rfl⟩
  · rintro ⟨hsharp, hquery⟩ c hc
    exact ⟨fun heq => hsharp (heq ▸ hc), fun heq => hquery (heq ▸ hc)⟩

/-- A path ends at the first character that ends it. -/
theorem path_eq (t : Text) : path t = t.takeWhile fun c => !isEnd c := by
  rw [path, sent, List.takeWhile_takeWhile]
  congr 1
  funext c
  rw [Bool.eq_iff_iff]
  simp [isEnd, and_comm]

/-- A path is whole when no end of it stands in front of the question mark behind it. -/
theorem path_append (h : isClear front = true) : path (front ++ '?' :: query) = front := by
  rw [path_eq, List.takeWhile_append_of_pos (List.all_eq_true.1 h)]
  simp [isEnd]

/-- An address without a number sign is sent whole. -/
theorem sent_append (h : isClear front = true) (hquery : '#' ∉ query) :
    sent (front ++ '?' :: query) = front ++ '?' :: query := by
  have hsharp : '#' ∉ front ++ '?' :: query := by
    simp [(isClear_iff.1 h).1, hquery]
  exact List.takeWhile_eq_self_iff.2 (Text.forall_bne_of_not_mem hsharp)

/-- The query stands behind the question mark that ends the path. -/
theorem query_append (h : isClear front = true) (hquery : '#' ∉ query) :
    Address.query (front ++ '?' :: query) = query := by
  rw [Address.query, sent_append h hquery, Text.dropWhile_bne_append (isClear_iff.1 h).2]
  rfl

end Address

/-! ## Questions read back -/

namespace Request

variable {ns pod container rest t : Text}

/-- The question of an address that leads to the namespaces is put by what comes behind them. -/
theorem ofAddress?_eq (h : Address.path t = namespacesPath ++ rest) :
    ofAddress? t = ofNames? (rest.splitOn '/') (Address.query t) := by
  rw [ofAddress?, h, List.isPrefixOf?_eq_some_iff_append_eq.2 rfl]
  rfl

theorem isClear_of_isPlain (h : IsPlain ns) : Address.isClear ns = true :=
  Address.isClear_iff.2 ⟨h.sharp, h.query⟩

/-- The path to the pods of a namespace with a plain name is whole. -/
theorem isClear_podsPath (h : IsPlain ns) : Address.isClear (podsPath ns) = true := by
  have hpath : Address.isClear namespacesPath = true := by decide
  have hpods : Address.isClear "/pods".toList = true := by decide
  rw [podsPath, Address.isClear_append, Address.isClear_append, hpath, isClear_of_isPlain h, hpods]
  rfl

/-- A question for the pods of a namespace leads to itself when the name is plain. -/
theorem ofAddress?_pods (h : IsPlain ns) : ofAddress? (pods ns).address = some (.pods ns) := by
  have hpath : Address.path (pods ns).address = namespacesPath ++ (ns ++ '/' :: "pods".toList) := by
    rw [address, path, Address.path_append (isClear_podsPath h), podsPath,
      List.append_assoc]
    rfl
  rw [ofAddress?_eq hpath, List.splitOn_append_cons_self, List.splitOn_eq_singleton h.slash,
    List.splitOn_eq_singleton (by decide)]
  rfl

/-- A question for the pods of a namespace leads nowhere when a mark ends its path too early. -/
theorem ofAddress?_pods_eq_none {c : Char} (hslash : '/' ∉ ns) (hc : c ∈ ns)
    (hend : Address.isEnd c = true) : ofAddress? (pods ns).address = none := by
  have hprefix : Address.isClear namespacesPath = true := by decide
  have hcut : (ns.takeWhile fun c => !Address.isEnd c).length ≠ ns.length := by
    intro hlength
    have hwhole := List.takeWhile_eq_self_iff.1 ((List.takeWhile_prefix _).eq_of_length hlength) c hc
    simp [hend] at hwhole
  have hpath : Address.path (pods ns).address
      = namespacesPath ++ ns.takeWhile fun c => !Address.isEnd c := by
    rw [Address.path_eq, address, path, podsPath, List.append_assoc, List.append_assoc,
      List.takeWhile_append_of_pos (List.all_eq_true.1 hprefix), List.takeWhile_append, if_neg hcut]
  have hname : '/' ∉ ns.takeWhile fun c => !Address.isEnd c := fun hmem =>
    hslash ((List.takeWhile_prefix _).subset hmem)
  rw [ofAddress?_eq hpath, List.splitOn_eq_singleton hname]
  rfl

/-- The container that a question names is read back from its query. -/
theorem containerIn_query (container : Text) :
    containerIn ("&container=".toList ++ FormEncoded.write container) = container := by
  have hfield : '&' ∉ containerField ++ FormEncoded.write container := by
    rw [List.mem_append, not_or]
    exact ⟨by decide, FormEncoded.not_mem_write (by decide)⟩
  have hsplit : ("&container=".toList ++ FormEncoded.write container).splitOn '&'
      = [[], containerField ++ FormEncoded.write container] := by
    have htext : "&container=".toList ++ FormEncoded.write container
        = [] ++ '&' :: (containerField ++ FormEncoded.write container) := rfl
    rw [htext, List.splitOn_append_cons_self, List.splitOn_eq_singleton hfield,
      List.splitOn_eq_singleton List.not_mem_nil]
    rfl
  have hfound : containerField.isPrefixOf? (containerField ++ FormEncoded.write container)
      = some (FormEncoded.write container) := List.isPrefixOf?_eq_some_iff_append_eq.2 rfl
  have hnone : containerField.isPrefixOf? [] = none := rfl
  rw [containerIn, hsplit, List.findSome?_cons, hnone]
  simp only [List.findSome?_cons, hfound, Option.elim_some, FormEncoded.read_write]

/-- A question for a log of plain names leads to itself, whatever the container is called. -/
theorem ofAddress?_log (hns : IsPlain ns) (hpod : IsPlain pod) :
    ofAddress? (log ns pod container).address = some (.log ns pod container) := by
  have hfront : Address.isClear (podsPath ns ++ '/' :: pod ++ "/log".toList) = true := by
    have hlog : Address.isClear "/log".toList = true := by decide
    have hslash : Address.isEnd '/' = false := rfl
    rw [Address.isClear_append, Address.isClear_append, Address.isClear_cons, isClear_podsPath hns,
      isClear_of_isPlain hpod, hlog, hslash]
    rfl
  have hpath : Address.path (log ns pod container).address
      = namespacesPath ++ (ns ++ '/' :: ("pods".toList ++ '/' :: (pod ++ '/' :: "log".toList))) := by
    rw [address, path, Address.path_append hfront, podsPath]
    simp
  have hquery : Address.query (log ns pod container).address
      = "&container=".toList ++ FormEncoded.write container := by
    have hsharp : '#' ∉ "&container=".toList ++ FormEncoded.write container := by
      simp [FormEncoded.not_mem_write]
    exact Address.query_append hfront hsharp
  rw [ofAddress?_eq hpath, hquery, List.splitOn_append_cons_self, List.splitOn_append_cons_self,
    List.splitOn_append_cons_self, List.splitOn_eq_singleton hns.slash,
    List.splitOn_eq_singleton hpod.slash, List.splitOn_eq_singleton (by decide),
    List.splitOn_eq_singleton (by decide)]
  show (if "pods".toList = "pods".toList ∧ "log".toList = "log".toList then
    some (Request.log ns pod (containerIn ("&container=".toList ++ FormEncoded.write container)))
    else none) = some (.log ns pod container)
  rw [containerIn_query, if_pos ⟨rfl, rfl⟩]

end Request

/-! ## Servers that go by addresses -/

namespace Server

variable {server : Server} {ns pod : Text} {pods : List Pod}

/-- A server that lists pods under a name without slashes lists them for the namespace of this
name. -/
theorem pods_of_routed (hslash : '/' ∉ ns) (h : server.routed.pods ns = .ok pods) :
    IsPlain ns ∧ server.pods ns = .ok pods := by
  simp only [routed] at h
  have hplain : IsPlain ns := by
    refine ⟨fun hmem => ?_, fun hmem => ?_, hslash⟩
    · rw [Request.ofAddress?_pods_eq_none hslash hmem rfl] at h
      cases h
    · rw [Request.ofAddress?_pods_eq_none hslash hmem rfl] at h
      cases h
  rw [Request.ofAddress?_pods hplain] at h
  exact ⟨hplain, h⟩

/-- A server that goes by addresses answers a question for the pods of a namespace with a plain name
as it is put. -/
theorem routed_pods (server : Server) (h : IsPlain ns) :
    server.routed.pods ns = server.pods ns := by
  simp only [routed, Request.ofAddress?_pods h]

/-- A server that goes by addresses answers a question for a log of plain names as it is put. -/
theorem routed_log (server : Server) (container : Text) (hns : IsPlain ns) (hpod : IsPlain pod) :
    server.routed.log ns pod container = server.log ns pod container := by
  simp only [routed, Request.ofAddress?_log hns hpod]

end Server

end Kubernetes

end Evidence
