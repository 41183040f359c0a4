import Evidence.Proofs.Addresses

/-!
# Questions as they are sent

Every character of a name that clusters allow stands for itself in an address.  A question with such
names is sent, in the form that the names suggest, and reaches a server that goes by addresses.

Main definitions:

- `Kubernetes.IsObjectName`: a name of an object in a cluster.
- `Kubernetes.isOrdinary`: the characters that stand for themselves anywhere in an address.
- `Kubernetes.Request.IsOrdinary`: a question that is sent as it stands.

Main results:

- `Kubernetes.Request.IsOrdinary.fault?_eq_none`: such a question is sent.
- `Kubernetes.Request.isOrdinary_pods` and `Kubernetes.Request.isOrdinary_log`: a question with
  names of objects is such a question.
-/

namespace Evidence

/-! ## Sizes of texts -/

namespace Text

/-- A text of ASCII characters takes as many bytes as it has characters. -/
theorem byteLength_eq_length {t : Text} (h : ∀ c ∈ t, c.toNat < 0x80) :
    byteLength t = t.length := by
  induction t with
  | nil => rfl
  | cons c t ih =>
    have hrest := ih fun d hd => h d (List.mem_cons_of_mem c hd)
    have hwidth : byteWidth c = 1 := if_pos (h c List.mem_cons_self)
    calc byteLength (c :: t) = byteWidth c + byteLength t := rfl
      _ = (c :: t).length := by rw [hwidth, hrest, List.length_cons, Nat.add_comm]

end Text

/-- Plain bytes are written as the characters that they stand for. -/
theorem FormEncoded.write_eq_self {t : Text}
    (h : ∀ c ∈ t, c.toNat < 0x80 ∧ isPlain (UInt8.ofNat c.toNat) = true) : write t = t := by
  induction t with
  | nil => rfl
  | cons c t ih =>
    obtain ⟨hlt, hplain⟩ := h c List.mem_cons_self
    have hrest : (Utf8.encode t).flatMap writeByte = t :=
      ih fun d hd => h d (List.mem_cons_of_mem c hd)
    have hbyte : writeByte (UInt8.ofNat c.toNat) = [c] := by
      rw [writeByte, if_pos hplain, UInt8.toNat_ofNat_of_lt' (by simp [UInt8.size]; omega),
        Char.ofNat_toNat]
    rw [write, Utf8.encode_cons, Utf8.encodeChar_of_lt_0x80 hlt, List.flatMap_append,
      List.flatMap_singleton, hbyte, hrest, List.singleton_append]

namespace Kubernetes

/-! ## Names of objects -/

/-- A name that an object of a cluster may have: no longer than 253 characters. -/
structure IsObjectName (name : Text) : Prop extends IsName name where
  short : name.length ≤ 253

/-- Whether a character stands for itself wherever it is in an address: a character of ASCII that a
path may hold as well as a query, and that ends neither. -/
def isOrdinary (c : Char) : Bool :=
  c.toNat < 0x80 && isPathChar c && isQueryChar c && !Address.isEnd c

namespace IsName

variable {name : Text} {c : Char}

/-- Characters of names are characters of ASCII, are ordinary, and are written as they are. -/
theorem cases_of_mem (h : IsName name) (hc : c ∈ name) :
    c.toNat < 0x80 ∧ isOrdinary c = true ∧
      FormEncoded.isPlain (UInt8.ofNat c.toNat) = true := by
  have hlt : c.toNat < 0x80 := by
    obtain hlower | hdigit | rfl | rfl := h.chars c hc
    · have hle : c.toNat ≤ 'z'.toNat := of_decide_eq_true (Bool.and_eq_true_iff.1 hlower).2
      exact Nat.lt_of_le_of_lt hle (by decide)
    · simp only [Char.isDigit, Bool.and_eq_true, decide_eq_true_eq] at hdigit
      have hle : c.toNat ≤ '9'.toNat := hdigit.2
      exact Nat.lt_of_le_of_lt hle (by decide)
    · decide
    · decide
  have hascii : ∀ n : Fin 0x80, ((Char.ofNat n).isLower ∨ (Char.ofNat n).isDigit ∨
      Char.ofNat n = '-' ∨ Char.ofNat n = '.') →
      isOrdinary (Char.ofNat n) = true ∧ FormEncoded.isPlain (UInt8.ofNat n) = true := by
    decide
  have hchar := hascii ⟨c.toNat, hlt⟩
  rw [Char.ofNat_toNat] at hchar
  exact ⟨hlt, hchar (h.chars c hc)⟩

/-- A name holds ordinary characters only. -/
theorem all_isOrdinary (h : IsName name) : name.all isOrdinary = true :=
  List.all_eq_true.2 fun _ hc => (h.cases_of_mem hc).2.1

/-- A name is written as it is. -/
theorem write_eq_self (h : IsName name) : FormEncoded.write name = name :=
  FormEncoded.write_eq_self fun _ hc =>
    ⟨(h.cases_of_mem hc).1, (h.cases_of_mem hc).2.2⟩

end IsName

/-! ## Questions that are sent -/

namespace Request

variable {r : Request} {ns pod container : Text}

/-- A question is ordinary when its characters stand for themselves and are not too many to be
sent. -/
structure IsOrdinary (r : Request) : Prop where
  path : r.path.all isOrdinary = true
  query : r.query.all isOrdinary = true
  short : r.path.length + r.query.length < addressLimit

namespace IsOrdinary

theorem isClear {t : Text} (h : t.all isOrdinary = true) : Address.isClear t = true := by
  rw [Address.isClear, List.all_eq_true]
  intro c hc
  have hordinary := List.all_eq_true.1 h c hc
  rw [isOrdinary, Bool.and_eq_true] at hordinary
  exact hordinary.2

theorem toNat_lt {t : Text} (h : t.all isOrdinary = true) : ∀ c ∈ t, c.toNat < 0x80 := by
  intro c hc
  have hordinary := List.all_eq_true.1 h c hc
  simp only [isOrdinary, Bool.and_eq_true, decide_eq_true_eq] at hordinary
  exact hordinary.1.1.1

/-- An ordinary question is sent. -/
theorem fault?_eq_none (h : r.IsOrdinary) : r.fault? = none := by
  have hlength : Text.byteLength r.address ≤ addressLimit := by
    have hascii : ∀ c ∈ r.address, c.toNat < 0x80 := by
      intro c hc
      rw [address, List.mem_append, List.mem_cons] at hc
      obtain hpath | rfl | hquery := hc
      · exact toNat_lt h.path c hpath
      · decide
      · exact toNat_lt h.query c hquery
    have hshort := h.short
    rw [Text.byteLength_eq_length hascii, address, List.length_append, List.length_cons]
    omega
  have hsharp : '#' ∉ r.query := (Address.isClear_iff.1 (isClear h.query)).1
  have haddress : isAddress r.address = true := by
    rw [isAddress, address, Address.path_append (isClear h.path),
      Address.query_append (isClear h.path) hsharp, Bool.and_eq_true, List.all_eq_true,
      List.all_eq_true]
    constructor
    · intro c hc
      have hordinary := List.all_eq_true.1 h.path c hc
      simp only [isOrdinary, Bool.and_eq_true] at hordinary
      exact hordinary.1.1.2
    · intro c hc
      have hordinary := List.all_eq_true.1 h.query c hc
      simp only [isOrdinary, Bool.and_eq_true] at hordinary
      exact hordinary.1.2
  rw [fault?, if_neg (Nat.not_lt.2 hlength), if_pos haddress]

/-- An ordinary question is sent with its whole address. -/
theorem text_eq (h : r.IsOrdinary) : r.text = "GET ".toList ++ (r.path ++ '?' :: r.query) := by
  rw [text, address, Address.sent_append (isClear h.path)]
  exact (Address.isClear_iff.1 (isClear h.query)).1

end IsOrdinary

/-- The path to the pods of a namespace holds ordinary characters only. -/
theorem all_podsPath (h : IsName ns) : (podsPath ns).all isOrdinary = true := by
  have hfront : namespacesPath.all isOrdinary = true := by decide
  have hback : "/pods".toList.all isOrdinary = true := by decide
  rw [podsPath, List.all_append, List.all_append, hfront, h.all_isOrdinary, hback]
  rfl

/-- The path to the pods of a namespace is longer than the name by what is around it. -/
theorem length_podsPath (ns : Text) : (podsPath ns).length = ns.length + 24 := by
  have hfront : namespacesPath.length = 19 := rfl
  have hback : "/pods".toList.length = 5 := rfl
  rw [podsPath, List.length_append, List.length_append, hfront, hback]
  omega

/-- A question for the pods of a namespace is ordinary. -/
theorem isOrdinary_pods (h : IsObjectName ns) : (pods ns).IsOrdinary where
  path := all_podsPath h.toIsName
  query := rfl
  short := by
    have hshort := h.short
    show (podsPath ns).length + 0 < 65534
    rw [length_podsPath]
    omega

/-- The query for a log names the container as it is called. -/
theorem query_log (h : IsName container) :
    (log ns pod container).query = "&container=".toList ++ container := by
  show "&container=".toList ++ FormEncoded.write container = _
  rw [h.write_eq_self]

/-- A question for a log is ordinary. -/
theorem isOrdinary_log (hns : IsObjectName ns) (hpod : IsObjectName pod)
    (hcontainer : IsObjectName container) : (log ns pod container).IsOrdinary where
  path := by
    have hlog : "/log".toList.all isOrdinary = true := by decide
    have hslash : isOrdinary '/' = true := by decide
    rw [path, List.all_append, List.all_append, List.all_cons, all_podsPath hns.toIsName, hslash,
      hpod.all_isOrdinary, hlog]
    rfl
  query := by
    have hfield : "&container=".toList.all isOrdinary = true := by decide
    rw [query_log hcontainer.toIsName, List.all_append, hfield, hcontainer.all_isOrdinary]
    rfl
  short := by
    have hshort := hns.short
    have hshort' := hpod.short
    have hshort'' := hcontainer.short
    have hfield : "&container=".toList.length = 11 := rfl
    have hback : "/log".toList.length = 4 := rfl
    rw [path, query_log hcontainer.toIsName, List.length_append, List.length_append,
      List.length_append, List.length_cons, length_podsPath, hfield, hback, addressLimit]
    omega

end Request

end Kubernetes

end Evidence
