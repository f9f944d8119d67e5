import Iwlwifi.Lib.ElementList

/-!
# P2P attributes

`cfg80211_get_p2p_attr` of `net/wireless/util.c`.  The attributes are in the P2P vendor elements of
a frame, one behind the other, and the value of one may go on in the next of these elements.  The
function walks over the elements and carries from one to the next how much of an attribute is still
to come, whether it is the one that is asked for, and where its value is copied to.
-/

namespace Iwlwifi.P2pAttr

open Lib

/-! ## The function -/

def enoent : Int := -2
def eilseq : Int := -84

def eidVendorSpecific : Nat := 221

/-- The variables that live across the elements.  `out` holds what was copied, if there is a
buffer. -/
structure State where
  out : Option (List UInt8)
  bufsize : Nat
  attrRemaining : Nat
  desiredAttr : Bool
  desiredLen : Nat
  deriving DecidableEq

/-- The function returns, or goes on with the next element. -/
inductive Flow where
  | returned (ret : Int) (s : State)
  | goesOn (s : State)
  deriving DecidableEq

/-- A part of the value: `desired_len += copy` and the `memcpy`. -/
def copyPart (bytes : List UInt8) (iedata copy : Nat) (s : State) : BoundedRead Empty State :=
  let s := { s with desiredLen := (s.desiredLen + copy) % 2 ^ 16 }
  match s.out with
  | none => return s
  | some out => do
      let ⟨part, _⟩ ← readBytes bytes iedata (min s.bufsize copy)
      return { s with out := some (out ++ part), bufsize := s.bufsize - min s.bufsize copy }

def copyWhen (wanted : Bool) (bytes : List UInt8) (iedata copy : Nat) (s : State) :
    BoundedRead Empty State :=
  if wanted then copyPart bytes iedata copy s else .ok s

/-- The inner loop, over the attributes that begin in an element. -/
def attrLoop (bytes : List UInt8) (attr : Nat) (iedata iedatalen : Nat) (s : State) :
    BoundedRead Empty Flow :=
  if 0 < iedatalen then
    if iedatalen < 3 then return .returned eilseq s
    else do
      let id ← readU8 bytes iedata
      let low ← readU8 bytes (iedata + 1)
      let high ← readU8 bytes (iedata + 2)
      let attrLen := low + 2 ^ 8 * high
      let copy := min attrLen (iedatalen - 3)
      let s := { s with desiredAttr := id == attr }
      let s ← copyWhen (id == attr) bytes (iedata + 3) copy s
      if s.desiredAttr ∧ copy = attrLen then return .returned s.desiredLen s
      else
        attrLoop bytes attr (iedata + 3 + copy) (iedatalen - 3 - copy)
          { s with attrRemaining := attrLen - copy }
  else return .goesOn s
termination_by iedatalen

/-- The attributes of a P2P element, the first of which may be one that began earlier. -/
def p2pElement (bytes : List UInt8) (attr : Nat) (iedata iedatalen : Nat) (s : State) :
    BoundedRead Empty Flow := do
  let copy := min s.attrRemaining iedatalen
  let continues := copy != 0 && s.desiredAttr
  let s ← copyWhen continues bytes iedata copy s
  if continues ∧ copy = s.attrRemaining then return .returned s.desiredLen s
  else
    let s := { s with attrRemaining := s.attrRemaining - copy }
    if s.attrRemaining ≠ 0 then return .goesOn s
    else attrLoop bytes attr (iedata + copy) (iedatalen - copy) s

/-- The tests that an element is a P2P one. -/
def isP2p (bytes : List UInt8) (ofs iedatalen : Nat) : BoundedRead Empty Bool := do
  let id ← readU8 bytes ofs
  if id ≠ eidVendorSpecific then return false
  else if iedatalen < 4 then return false
  else
    let ⟨oui, _⟩ ← readBytes bytes (ofs + 2) 4
    return oui == [0x50, 0x6f, 0x9a, 0x09]

/-- The outer loop. -/
def ieLoop (bytes : List UInt8) (attr ofs : Nat) (s : State) : BoundedRead Empty (Int × State) :=
  if ofs < bytes.length then
    if bytes.length - ofs < 2 then return (eilseq, s)
    else do
      let iedatalen ← readU8 bytes (ofs + 1)
      if bytes.length - ofs < iedatalen + 2 then return (eilseq, s)
      else if ← isP2p bytes ofs iedatalen then
        match ← p2pElement bytes attr (ofs + 2 + 4) (iedatalen - 4) s with
        | .returned ret s => return (ret, s)
        | .goesOn s => ieLoop bytes attr (ofs + (iedatalen + 2)) s
      else ieLoop bytes attr (ofs + (iedatalen + 2)) s
  else return (if s.attrRemaining ≠ 0 ∧ s.desiredAttr then eilseq else enoent, s)
termination_by bytes.length - ofs

/-- `cfg80211_get_p2p_attr`, with what is in `buf` afterwards. -/
def cfg80211GetP2pAttr (ies : List UInt8) (attr : Nat) (buf : Bool) (bufsize : Nat) :
    BoundedRead Empty (Int × Option (List UInt8)) := do
  let (ret, s) ← ieLoop ies attr 0 ⟨if buf then some [] else none, bufsize, 0, false, 0⟩
  return (ret, s.out)

/-! ## Attributes of a stream -/

/-- The length that the header of the first attribute states. -/
def lenOf (stream : List UInt8) : Nat := u8At stream 1 + 2 ^ 8 * u8At stream 2

theorem lenOf_lt (stream : List UInt8) : lenOf stream < 2 ^ 16 := by
  have low := u8At_lt stream 1
  have high := u8At_lt stream 2
  rw [lenOf]
  omega

/-- The complete attributes of a stream, each with its id and its value. -/
def attrs (stream : List UInt8) : List (Nat × List UInt8) :=
  if 3 + lenOf stream ≤ stream.length then
    (u8At stream 0, window stream 3 (lenOf stream)) :: attrs (stream.drop (3 + lenOf stream))
  else []
termination_by stream.length
decreasing_by
  rw [List.length_drop]
  omega

/-- The offsets at which the attributes of a stream start, the last of which may be cut off. -/
def starts (stream : List UInt8) : List Nat :=
  if 0 < stream.length then
    0 :: (starts (stream.drop (3 + lenOf stream))).map fun o => o + (3 + lenOf stream)
  else []
termination_by stream.length
decreasing_by
  rw [List.length_drop]
  omega

/-- The value of the first complete attribute `attr`. -/
def valueOf (attr : Nat) (stream : List UInt8) : Option (List UInt8) :=
  ((attrs stream).find? fun a => a.1 == attr).map Prod.snd

/-- No header of an attribute is split, where the attributes start behind `skip` bytes of a stream
that is made of parts. -/
def HeadersWhole (skip : Nat) (parts : List (List UInt8)) : Prop :=
  ∀ o ∈ starts (parts.flatten.drop skip), ∀ n < parts.length,
    (parts.take n).flatten.length < parts.flatten.length →
    skip + o < (parts.take n).flatten.length → skip + o + 3 ≤ (parts.take n).flatten.length

instance {skip : Nat} {parts : List (List UInt8)} : Decidable (HeadersWhole skip parts) :=
  inferInstanceAs (Decidable (∀ o ∈ starts _, ∀ n < _, _ → _ → _))

/-- What a P2P element carries behind its type. -/
def payload (e : Ie) : Option (List UInt8) :=
  if e.id = 221 ∧ e.data.take 4 = [0x50, 0x6f, 0x9a, 0x09] then some (e.data.drop 4) else none

def payloads (es : List Ie) : List (List UInt8) := es.filterMap payload

/-! ## Inside any buffer -/

section InBuffer

variable {bytes : List UInt8} {attr ofs iedata iedatalen copy : Nat} {s : State}

theorem copyPart_returns (inside : iedata + copy ≤ bytes.length) :
    Returns (copyPart bytes iedata copy s) := by
  rw [copyPart]
  cases s.out with
  | none => exact returns_ok _
  | some out => exact returns_bind (readBytes_of_le (by omega)) (returns_ok _)

theorem copyWhen_returns {wanted : Bool} (inside : iedata + copy ≤ bytes.length) :
    Returns (copyWhen wanted bytes iedata copy s) :=
  returns_ite (fun _ => copyPart_returns inside) fun _ => returns_ok s

theorem attrLoop_returns (inside : iedata + iedatalen ≤ bytes.length) :
    Returns (attrLoop bytes attr iedata iedatalen s) := by
  induction iedatalen using Nat.strong_induction_on generalizing iedata s with
  | _ iedatalen ih =>
    rw [attrLoop]
    refine returns_ite (fun more => ?_) fun _ => returns_ok _
    refine returns_ite (fun _ => returns_ok _) fun header => ?_
    refine returns_bind (readU8_of_le (by omega)) (returns_bind (readU8_of_le (by omega))
      (returns_bind (readU8_of_le (by omega)) ?_))
    obtain ⟨s', copied⟩ : Returns (copyWhen (u8At bytes iedata == attr) bytes (iedata + 3)
        (min (u8At bytes (iedata + 1) + 2 ^ 8 * u8At bytes (iedata + 2)) (iedatalen - 3))
        { s with desiredAttr := u8At bytes iedata == attr }) := copyWhen_returns (by omega)
    refine returns_bind copied (returns_ite (fun _ => returns_ok _) fun _ => ?_)
    exact ih _ (by omega) (by omega)

theorem p2pElement_returns (inside : iedata + iedatalen ≤ bytes.length) :
    Returns (p2pElement bytes attr iedata iedatalen s) := by
  obtain ⟨s', copied⟩ : Returns (copyWhen (min s.attrRemaining iedatalen != 0 && s.desiredAttr)
      bytes iedata (min s.attrRemaining iedatalen) s) := copyWhen_returns (by omega)
  rw [p2pElement]
  refine returns_bind copied (returns_ite (fun _ => returns_ok _) fun _ => ?_)
  exact returns_ite (fun _ => returns_ok _) fun _ => attrLoop_returns (by omega)

theorem isP2p_eq (inside : ofs + 2 + iedatalen ≤ bytes.length) :
    isP2p bytes ofs iedatalen = .ok (u8At bytes ofs == eidVendorSpecific && 4 ≤ iedatalen &&
      window bytes (ofs + 2) 4 == [0x50, 0x6f, 0x9a, 0x09]) := by
  rw [isP2p, readU8_of_le (by omega)]
  simp only [bind, Except.bind]
  by_cases vendor : u8At bytes ofs = eidVendorSpecific
  · rw [if_neg (not_not_intro vendor), beq_iff_eq.mpr vendor]
    by_cases short : iedatalen < 4
    · rw [if_pos short, decide_eq_false (Nat.not_le_of_lt short)]
      rfl
    · rw [if_neg short, readBytes_of_le (by omega), decide_eq_true (Nat.le_of_not_lt short)]
      rfl
  · rw [if_pos vendor, beq_eq_false_iff_ne.mpr vendor]
    rfl

theorem ieLoop_returns (bytes : List UInt8) (attr ofs : Nat) (s : State) :
    Returns (ieLoop bytes attr ofs s) := by
  generalize left : bytes.length - ofs = n
  induction n using Nat.strong_induction_on generalizing ofs s with
  | _ n ih =>
    rw [ieLoop]
    refine returns_ite (fun more => ?_) fun _ => returns_ok _
    refine returns_ite (fun _ => returns_ok _) fun room => ?_
    refine returns_bind (readU8_of_le (by omega)) ?_
    refine returns_ite (fun _ => returns_ok _) fun whole => ?_
    have next : ∀ s, Returns (ieLoop bytes attr (ofs + (u8At bytes (ofs + 1) + 2)) s) :=
      fun s => ih _ (by omega) _ s rfl
    refine returns_bind (isP2p_eq (by omega)) (returns_ite (fun p2p => ?_) fun _ => next s)
    simp only [Bool.and_eq_true, decide_eq_true_eq] at p2p
    have four := p2p.1.2
    obtain ⟨flow, result⟩ : Returns (p2pElement bytes attr (ofs + 2 + 4)
      (u8At bytes (ofs + 1) - 4) s) := p2pElement_returns (by omega)
    refine returns_bind result ?_
    cases flow with
    | returned ret s => exact returns_ok _
    | goesOn s => exact next s

end InBuffer

/-! ## Streams in parts -/

section Streams

variable {skip attr : Nat} {p : List UInt8} {parts : List (List UInt8)}

theorem flatten_drop_cons (behind : p.length ≤ skip) :
    (p :: parts).flatten.drop skip = parts.flatten.drop (skip - p.length) := by
  rw [List.flatten_cons, List.drop_append, List.drop_eq_nil_of_le behind, List.nil_append]

/-- The parts behind the first one. -/
theorem HeadersWhole.tail (whole : HeadersWhole skip (p :: parts)) (behind : p.length ≤ skip) :
    HeadersWhole (skip - p.length) parts := by
  intro o start n some' early later
  rw [← flatten_drop_cons behind] at start
  have inside := whole o start (n + 1) (Nat.succ_lt_succ some')
  simp only [List.take_succ_cons, List.flatten_cons, List.length_append] at inside
  omega

/-- Behind the first attribute. -/
theorem HeadersWhole.next (whole : HeadersWhole skip parts)
    (more : skip < parts.flatten.length) :
    HeadersWhole (skip + (3 + lenOf (parts.flatten.drop skip))) parts := by
  intro o start n some' early later
  have inside := whole (o + (3 + lenOf (parts.flatten.drop skip))) (by
    have something : 0 < (parts.flatten.drop skip).length := by
      rw [List.length_drop]
      omega
    rw [starts, if_pos something, List.drop_drop]
    exact .tail _ (List.mem_map.mpr ⟨o, start, rfl⟩)) n some' early
  omega

/-- A header that begins in the first part ends there, unless the stream ends first. -/
theorem HeadersWhole.first (whole : HeadersWhole skip (p :: parts)) (begins : skip < p.length) :
    skip + 3 ≤ p.length ∨ (p :: parts).flatten.length = p.length := by
  by_cases last : p.length < (p :: parts).flatten.length
  · have something : 0 < ((p :: parts).flatten.drop skip).length := by
      rw [List.length_drop]
      omega
    have further : 1 < (p :: parts).length := by
      cases parts with
      | nil => exact absurd last (by simp)
      | cons q parts => exact Nat.succ_lt_succ (Nat.succ_pos _)
    have inside := whole 0 (by rw [starts, if_pos something]; exact .head _) 1 further
    rw [List.take_succ_cons, List.take_zero, List.flatten_singleton] at inside
    exact .inl (inside last begins)
  · rw [List.flatten_cons, List.length_append] at last ⊢
    exact .inr (by omega)

theorem valueOf_short {stream : List UInt8} (short : stream.length < 3 + lenOf stream) :
    valueOf attr stream = none := by
  rw [valueOf, attrs, if_neg (by omega)]
  rfl

theorem valueOf_wanted {stream : List UInt8} (whole : 3 + lenOf stream ≤ stream.length)
    (wanted : u8At stream 0 = attr) :
    valueOf attr stream = some (window stream 3 (lenOf stream)) := by
  rw [valueOf, attrs, if_pos whole, List.find?_cons, beq_iff_eq.mpr wanted]
  rfl

/-- The value begins in one part of the stream and goes on in the next. -/
theorem valueOf_split {part rest : List UInt8} (wanted : u8At (part ++ rest) 0 = attr)
    (header : 3 ≤ part.length) (cut : part.length ≤ 3 + lenOf (part ++ rest)) :
    valueOf attr (part ++ rest) =
      if 3 + lenOf (part ++ rest) - part.length ≤ rest.length then
        some (part.drop 3 ++ rest.take (3 + lenOf (part ++ rest) - part.length))
      else none := by
  by_cases complete : 3 + lenOf (part ++ rest) - part.length ≤ rest.length
  · have size : lenOf (part ++ rest) - (part.length - 3) =
        3 + lenOf (part ++ rest) - part.length := by omega
    rw [if_pos complete, valueOf_wanted (by rw [List.length_append]; omega) wanted, window,
      List.drop_append_of_le_length header, List.take_append, List.length_drop, size,
      List.take_of_length_le (l := part.drop 3) (by rw [List.length_drop]; omega)]
  · rw [if_neg complete, valueOf_short (by rw [List.length_append]; omega)]

theorem valueOf_other {stream : List UInt8} (other : u8At stream 0 ≠ attr) :
    valueOf attr stream = valueOf attr (stream.drop (3 + lenOf stream)) := by
  by_cases whole : 3 + lenOf stream ≤ stream.length
  · rw [valueOf, attrs, if_pos whole, List.find?_cons, beq_eq_false_iff_ne.mpr other]
    rfl
  · rw [valueOf_short (by omega), valueOf_short (by rw [List.length_drop]; omega)]

end Streams

/-! ## One attribute after another -/

section Run

variable {attr bufsize : Nat} {buf : Bool}

/-- What was copied of the attribute is `part`. -/
structure Collected (buf : Bool) (bufsize : Nat) (part : List UInt8) (s : State) : Prop where
  desiredLen : s.desiredLen = part.length
  out : s.out = if buf then some (part.take bufsize) else none
  room : buf = true → s.bufsize = bufsize - part.length

/-- The value that is to be found in the payloads that are left. -/
inductive Expects (attr : Nat) (buf : Bool) (bufsize : Nat) (parts : List (List UInt8)) :
    State → Option (List UInt8) → Prop
  | wanted {s : State} (part : List UInt8) (collected : Collected buf bufsize part s)
      (desired : s.desiredAttr = true) (more : 0 < s.attrRemaining)
      (short : part.length + s.attrRemaining < 2 ^ 16) :
      Expects attr buf bufsize parts s
        (if s.attrRemaining ≤ parts.flatten.length then
          some (part ++ parts.flatten.take s.attrRemaining) else none)
  | other {s : State} (collected : Collected buf bufsize [] s) (other : s.desiredAttr = false)
      (whole : HeadersWhole s.attrRemaining parts) :
      Expects attr buf bufsize parts s (valueOf attr (parts.flatten.drop s.attrRemaining))

/-- The function returns `ret` for the value that is to be found. -/
def Answer (buf : Bool) (bufsize : Nat) (value : Option (List UInt8)) (ret : Int)
    (out : Option (List UInt8)) : Prop :=
  match value with
  | some value => ret = value.length ∧ out = if buf then some (value.take bufsize) else none
  | none => ret = enoent ∨ ret = eilseq

/-- What is to be found after a part of an element. -/
def Leads (attr : Nat) (buf : Bool) (bufsize : Nat) (parts : List (List UInt8))
    (value : Option (List UInt8)) : Flow → Prop
  | .returned ret s => Answer buf bufsize value ret s.out
  | .goesOn s => Expects attr buf bufsize parts s value

theorem copyPart_collected {bytes part : List UInt8} {iedata copy : Nat} {s : State}
    (collected : Collected buf bufsize part s) (inside : iedata + copy ≤ bytes.length)
    (short : part.length + copy < 2 ^ 16) :
    ∃ s', copyPart bytes iedata copy s = .ok s' ∧
      Collected buf bufsize (part ++ window bytes iedata copy) s' ∧
      s'.attrRemaining = s.attrRemaining ∧ s'.desiredAttr = s.desiredAttr := by
  have grown : (part ++ window bytes iedata copy).length = part.length + copy := by
    rw [List.length_append, window_length inside]
  have length : (s.desiredLen + copy) % 2 ^ 16 = (part ++ window bytes iedata copy).length := by
    rw [collected.desiredLen, grown, Nat.mod_eq_of_lt short]
  rw [copyPart]
  have out := collected.out
  cases buf with
  | false =>
    rw [show s.out = none from out]
    exact ⟨_, rfl, ⟨length, rfl, nofun⟩, rfl, rfl⟩
  | true =>
    have room := collected.room rfl
    rw [show s.out = some (part.take bufsize) from out]
    refine ⟨_, congrArg (· >>= _) (readBytes_of_le (by omega)), ⟨length, ?_, fun _ => ?_⟩, rfl,
      rfl⟩
    · change some (part.take bufsize ++ window bytes iedata (min s.bufsize copy)) = some _
      rw [List.take_append, room, window, window, List.take_take]
    · change s.bufsize - min s.bufsize copy = _
      rw [grown, room]
      omega

section Payload

variable (front back : List UInt8) {p : List UInt8} (parts : List (List UInt8)) {r : Nat}

theorem u8At_drop (stream : List UInt8) (r k : Nat) :
    u8At (stream.drop r) k = u8At stream (r + k) := by
  simp only [u8At, List.getD_eq_getElem?_getD, List.getElem?_drop]

/-- The stream goes on with the bytes of the element that are left. -/
theorem u8At_stream {k : Nat} (inside : r + k < p.length) :
    u8At (front ++ (p ++ back)) (front.length + r + k) =
      u8At ((p :: parts).flatten.drop r) k := by
  rw [u8At_drop, List.flatten_cons, u8At_append _ inside, Nat.add_assoc, u8At_append_right,
    u8At_append _ inside]

theorem lenOf_stream (inside : r + 2 < p.length) :
    u8At (front ++ (p ++ back)) (front.length + r + 1) +
        2 ^ 8 * u8At (front ++ (p ++ back)) (front.length + r + 2) =
      lenOf ((p :: parts).flatten.drop r) := by
  rw [u8At_stream front back parts (by omega), u8At_stream front back parts inside, lenOf]

theorem window_stream {n : Nat} (inside : r + n ≤ p.length) :
    window (front ++ (p ++ back)) (front.length + r) n = window p r n := by
  rw [window_append_right, window_append_left inside]

variable {parts} {s : State} {value : Option (List UInt8)}

/-- The value of a wanted attribute that ends in the element. -/
theorem valueOf_inside (wanted : u8At ((p :: parts).flatten.drop r) 0 = attr)
    (whole : r + 3 + lenOf ((p :: parts).flatten.drop r) ≤ p.length) :
    valueOf attr ((p :: parts).flatten.drop r) =
      some (window p (r + 3) (lenOf ((p :: parts).flatten.drop r))) := by
  have total : (p :: parts).flatten.length = p.length + parts.flatten.length := by
    rw [List.flatten_cons, List.length_append]
  rw [valueOf_wanted (by rw [List.length_drop]; omega) wanted, window, window, List.drop_drop]
  generalize lenOf ((p :: parts).flatten.drop r) = attrLen at whole ⊢
  rw [List.flatten_cons, List.drop_append_of_le_length (by omega),
    List.take_append_of_le_length (by rw [List.length_drop]; omega)]

/-- The value of a wanted attribute that does not end before the element. -/
theorem valueOf_cut (wanted : u8At ((p :: parts).flatten.drop r) 0 = attr)
    (header : r + 3 ≤ p.length)
    (cut : p.length ≤ r + 3 + lenOf ((p :: parts).flatten.drop r)) :
    valueOf attr ((p :: parts).flatten.drop r) =
      if lenOf ((p :: parts).flatten.drop r) - (p.length - (r + 3)) ≤ parts.flatten.length then
        some (p.drop (r + 3) ++ parts.flatten.take
          (lenOf ((p :: parts).flatten.drop r) - (p.length - (r + 3))))
      else none := by
  have stream : (p :: parts).flatten.drop r = p.drop r ++ parts.flatten := by
    rw [List.flatten_cons, List.drop_append_of_le_length (by omega)]
  rw [stream] at wanted cut ⊢
  have more : 3 + lenOf (p.drop r ++ parts.flatten) - (p.drop r).length =
      lenOf (p.drop r ++ parts.flatten) - (p.length - (r + 3)) := by
    rw [List.length_drop]
    omega
  rw [valueOf_split wanted (by rw [List.length_drop]; omega) (by rw [List.length_drop]; omega),
    more, List.drop_drop]

theorem attrLoop_leads (inside : r ≤ p.length)
    (within : r < p.length → Collected buf bufsize [] s ∧ HeadersWhole r (p :: parts) ∧
      value = valueOf attr ((p :: parts).flatten.drop r))
    (atEnd : r = p.length → Expects attr buf bufsize parts s value) :
    ∃ flow, attrLoop (front ++ (p ++ back)) attr (front.length + r) (p.length - r) s = .ok flow ∧
      Leads attr buf bufsize parts value flow := by
  generalize left : p.length - r = n
  induction n using Nat.strong_induction_on generalizing r s value with
  | _ n ih =>
    rw [attrLoop]
    by_cases more : 0 < n
    case neg => exact ⟨.goesOn s, if_neg more, atEnd (by omega)⟩
    rw [if_pos more]
    obtain ⟨collected, whole, rfl⟩ := within (by omega)
    by_cases short : n < 3
    · refine ⟨.returned eilseq s, if_pos short, ?_⟩
      rcases whole.first (by omega) with header | last
      · omega
      · rw [valueOf_short (by rw [List.length_drop, last]; omega)]
        exact .inr rfl
    have room : front.length + r + n ≤ (front ++ (p ++ back)).length := by
      simp only [List.length_append]
      omega
    have id : u8At (front ++ (p ++ back)) (front.length + r) =
        u8At ((p :: parts).flatten.drop r) 0 :=
      u8At_stream front back parts (r := r) (k := 0) (by omega)
    have read : ∀ k < 3, (readU8 (front ++ (p ++ back)) (front.length + r + k) :
        BoundedRead Empty Nat) = .ok (u8At (front ++ (p ++ back)) (front.length + r + k)) :=
      fun k three => readU8_of_le (by omega)
    have size := lenOf_stream front back (p := p) parts (r := r) (by omega)
    have total : (p :: parts).flatten.length = p.length + parts.flatten.length := by
      rw [List.flatten_cons, List.length_append]
    have behind := whole.next (by omega)
    have first := read 0 (by decide)
    rw [Nat.add_zero] at first
    rw [if_neg short, first, read 1 (by decide), read 2 (by decide)]
    simp only [bind, Except.bind]
    rw [size, id]
    generalize length : lenOf ((p :: parts).flatten.drop r) = attrLen at behind ⊢
    have bound : attrLen < 2 ^ 16 := length ▸ lenOf_lt _
    by_cases desired : u8At ((p :: parts).flatten.drop r) 0 = attr
    · rw [beq_iff_eq.mpr desired]
      obtain ⟨s', copied, collected', -, desired'⟩ := copyPart_collected
        (s := { s with desiredAttr := true })
        ⟨collected.desiredLen, collected.out, collected.room⟩
        (show front.length + r + 3 + min attrLen (n - 3) ≤ (front ++ (p ++ back)).length by omega)
        (by rw [List.length_nil]; omega)
      have part := window_stream front back (p := p) (r := r + 3) (n := min attrLen (n - 3))
        (by omega)
      rw [List.nil_append, Nat.add_assoc, part] at collected'
      rw [copyWhen, if_pos rfl, copied]
      dsimp only
      by_cases all : min attrLen (n - 3) = attrLen
      · refine ⟨.returned s'.desiredLen s', if_pos ⟨desired', all⟩, ?_⟩
        rw [all] at collected'
        rw [valueOf_inside desired (by omega), length]
        exact ⟨congrArg _ collected'.desiredLen, collected'.out⟩
      · rw [if_neg fun done => all done.2]
        have cut : min attrLen (n - 3) = n - 3 := by omega
        have atEnd' : front.length + r + 3 + (n - 3) = front.length + p.length := by omega
        rw [cut] at collected' ⊢
        rw [atEnd', Nat.sub_self]
        refine ih 0 (by omega) (r := p.length) (Nat.le_refl _)
          (fun inside => absurd inside (Nat.lt_irrefl _)) (fun _ => ?_) (Nat.sub_self _)
        · have rest : window p (r + 3) (n - 3) = p.drop (r + 3) := by
            rw [window, List.take_of_length_le]
            rw [List.length_drop]
            omega
          have size' : (window p (r + 3) (n - 3)).length = n - 3 := window_length (by omega)
          have behind' : p.length - (r + 3) = n - 3 := by omega
          rw [valueOf_cut desired (by omega) (by omega), length, behind', ← rest]
          exact .wanted _ ⟨collected'.desiredLen, collected'.out, collected'.room⟩ desired'
            (show 0 < attrLen - (n - 3) by omega)
            (show _ + (attrLen - (n - 3)) < _ by rw [size']; omega)
    · rw [beq_eq_false_iff_ne.mpr desired]
      simp only [copyWhen, Bool.false_eq_true, if_false, false_and]
      rw [valueOf_other desired, length, List.drop_drop]
      have advanced : front.length + r + 3 + min attrLen (n - 3) =
          front.length + (r + 3 + min attrLen (n - 3)) := by omega
      rw [advanced]
      refine ih _ (by omega) (r := r + 3 + min attrLen (n - 3)) (by omega) (fun inside => ?_)
        (fun ended => ?_) (by omega)
      · have all : min attrLen (n - 3) = attrLen := by omega
        rw [all, Nat.add_assoc] at inside ⊢
        exact ⟨⟨collected.desiredLen, collected.out, collected.room⟩, behind, rfl⟩
      · have past : p.length ≤ r + (3 + attrLen) := by omega
        have remaining : r + (3 + attrLen) - p.length = attrLen - min attrLen (n - 3) := by omega
        rw [flatten_drop_cons past, remaining]
        exact .other ⟨collected.desiredLen, collected.out, collected.room⟩ rfl
          (remaining ▸ behind.tail past)

/-- The wanted attribute goes on with the element. -/
theorem p2pElement_wanted {part : List UInt8} (collected : Collected buf bufsize part s)
    (desired : s.desiredAttr = true) (more : 0 < s.attrRemaining)
    (short : part.length + s.attrRemaining < 2 ^ 16) :
    ∃ flow, p2pElement (front ++ (p ++ back)) attr front.length p.length s = .ok flow ∧
      Leads attr buf bufsize parts (if s.attrRemaining ≤ (p :: parts).flatten.length then
        some (part ++ (p :: parts).flatten.take s.attrRemaining) else none) flow := by
  have room : front.length + p.length ≤ (front ++ (p ++ back)).length := by
    simp only [List.length_append]
    omega
  rw [p2pElement, desired, Bool.and_true]
  by_cases empty : p.length = 0
  · have nil := List.eq_nil_of_length_eq_zero empty
    subst nil
    simp only [copyWhen, List.length_nil, Nat.min_zero, bne_self_eq_false, Bool.false_eq_true,
      if_false, false_and, bind, Except.bind, Nat.sub_zero]
    rw [if_pos (by omega)]
    exact ⟨_, rfl, .wanted part collected desired more short⟩
  obtain ⟨s', copied, collected', remaining, desired'⟩ := copyPart_collected collected
    (show front.length + min s.attrRemaining p.length ≤ (front ++ (p ++ back)).length by omega)
    (by omega)
  have some' : (min s.attrRemaining p.length != 0) = true := bne_iff_ne.mpr (by omega)
  rw [some', copyWhen, if_pos rfl, copied]
  simp only [bind, Except.bind]
  have here : window (front ++ (p ++ back)) front.length (min s.attrRemaining p.length) =
      p.take s.attrRemaining := by
    have read := window_stream front back (p := p) (r := 0)
      (n := min s.attrRemaining p.length) (by omega)
    rw [Nat.add_zero] at read
    rw [read, window, List.drop_zero, ← List.take_take, List.take_length]
  rw [here] at collected'
  rw [remaining]
  by_cases all : min s.attrRemaining p.length = s.attrRemaining
  · rw [if_pos ⟨trivial, all⟩, List.flatten_cons, if_pos (by rw [List.length_append]; omega),
      List.take_append_of_le_length (by omega)]
    refine ⟨_, rfl, ?_, collected'.out⟩
    rw [collected'.desiredLen]
  · have cut : min s.attrRemaining p.length = p.length := by omega
    rw [cut, if_neg (by omega), if_pos (by omega)]
    have grown := collected'
    rw [List.take_of_length_le (by omega)] at grown
    have value : (if s.attrRemaining ≤ (p :: parts).flatten.length then
          some (part ++ (p :: parts).flatten.take s.attrRemaining) else none) =
        if s.attrRemaining - p.length ≤ parts.flatten.length then
          some (part ++ p ++ parts.flatten.take (s.attrRemaining - p.length)) else none := by
      rw [List.flatten_cons, List.length_append, List.take_append,
        List.take_of_length_le (l := p) (by omega), List.append_assoc]
      exact if_congr (by omega) rfl rfl
    rw [value]
    exact ⟨_, rfl, .wanted _ ⟨grown.desiredLen, grown.out, grown.room⟩
      (desired'.trans desired) (show 0 < s.attrRemaining - p.length by omega)
      (show _ + (s.attrRemaining - p.length) < _ by rw [List.length_append]; omega)⟩

/-- Another attribute goes on with the element, or ends in it. -/
theorem p2pElement_other (collected : Collected buf bufsize [] s) (other : s.desiredAttr = false)
    (whole : HeadersWhole s.attrRemaining (p :: parts)) :
    ∃ flow, p2pElement (front ++ (p ++ back)) attr front.length p.length s = .ok flow ∧
      Leads attr buf bufsize parts
        (valueOf attr ((p :: parts).flatten.drop s.attrRemaining)) flow := by
  rw [p2pElement, other, Bool.and_false]
  simp only [copyWhen, Bool.false_eq_true, if_false, false_and, bind, Except.bind]
  by_cases behind : s.attrRemaining < p.length
  · have copied : min s.attrRemaining p.length = s.attrRemaining := by omega
    rw [copied, Nat.sub_self, if_neg (not_not_intro rfl)]
    refine attrLoop_leads _ _ (Nat.le_of_lt behind) (fun _ => ⟨?_, whole, rfl⟩) fun ended =>
      absurd behind (ended ▸ Nat.lt_irrefl _)
    exact ⟨collected.desiredLen, collected.out, collected.room⟩
  · have copied : min s.attrRemaining p.length = p.length := by omega
    have skipped := Nat.le_of_not_lt behind
    have leads : Leads attr buf bufsize parts
        (valueOf attr ((p :: parts).flatten.drop s.attrRemaining))
        (.goesOn { s with attrRemaining := s.attrRemaining - p.length }) := by
      rw [flatten_drop_cons skipped]
      exact .other ⟨collected.desiredLen, collected.out, collected.room⟩ other
        (whole.tail skipped)
    rw [copied, Nat.sub_self, attrLoop, if_neg (Nat.lt_irrefl 0)]
    refine ⟨_, ?_, leads⟩
    split <;> rfl

theorem p2pElement_leads (expects : Expects attr buf bufsize (p :: parts) s value) :
    ∃ flow, p2pElement (front ++ (p ++ back)) attr front.length p.length s = .ok flow ∧
      Leads attr buf bufsize parts value flow := by
  cases expects with
  | wanted part collected desired more short =>
    exact p2pElement_wanted front back collected desired more short
  | other collected other whole => exact p2pElement_other front back collected other whole

end Payload

theorem isP2p_element (front : List UInt8) (e : Ie) (back : List UInt8) :
    isP2p (front ++ (e.bytes ++ back)) front.length e.data.length = .ok (payload e).isSome := by
  have inside : front.length + 2 + e.data.length ≤ (front ++ (e.bytes ++ back)).length := by
    rw [List.length_append, List.length_append, e.bytes_length]
    omega
  have vendor : e.id.toNat = eidVendorSpecific ↔ e.id = 221 := UInt8.toNat_inj (b := 221)
  rw [isP2p_eq inside, u8At_id]
  refine congrArg _ (Bool.eq_iff_iff.mpr ?_)
  simp only [payload, Bool.and_eq_true, beq_iff_eq, decide_eq_true_eq, Option.isSome_ite, vendor]
  by_cases long : 4 ≤ e.data.length
  · have type : window (front ++ (e.bytes ++ back)) (front.length + 2) 4 = e.data.take 4 := by
      have data := window_data front e back
      rw [← data, window, window, List.take_take, Nat.min_eq_left long]
    rw [type, and_iff_left long]
  · refine ⟨fun p2p => absurd p2p.1.2 long, fun p2p => absurd (congrArg List.length p2p.2) ?_⟩
    rw [List.length_take]
    change min 4 _ ≠ 4
    omega

/-- The payload lies behind the six bytes that make an element a P2P one. -/
theorem bytes_of_payload {e : Ie} {p : List UInt8} (found : payload e = some p) :
    ∃ head : List UInt8, head.length = 6 ∧ e.bytes = head ++ p ∧ e.data.length = 4 + p.length := by
  obtain ⟨⟨-, type⟩, rest⟩ := Option.ite_none_right_eq_some.mp found
  have data : e.data = e.data.take 4 ++ p := by
    rw [← Option.some.inj rest, List.take_append_drop]
  have four : (e.data.take 4).length = 4 := congrArg List.length type
  refine ⟨e.id :: .ofNat e.data.length :: e.data.take 4, ?_, ?_, ?_⟩
  · rw [List.length_cons, List.length_cons, four]
  · rw [Ie.bytes, List.cons_append, List.cons_append, ← data]
  · rw [data, List.length_append, four]

/-- The walk, from the start of an element on. -/
theorem ieLoop_answers (es : List Ie) (front : List UInt8) {s : State}
    {value : Option (List UInt8)} (expects : Expects attr buf bufsize (payloads es) s value) :
    ∃ ret s', ieLoop (front ++ bytesOf es) attr front.length s = .ok (ret, s') ∧
      Answer buf bufsize value ret s'.out := by
  induction es generalizing front s with
  | nil =>
    rw [ieLoop, bytesOf_nil, List.append_nil, if_neg (Nat.lt_irrefl _)]
    refine ⟨_, s, rfl, ?_⟩
    cases expects with
    | wanted part collected desired more short =>
      have cut : ¬ s.attrRemaining ≤ (payloads []).flatten.length := Nat.not_le_of_lt more
      rw [if_neg cut, if_pos ⟨by omega, desired⟩]
      exact .inr rfl
    | other collected other whole =>
      rw [show payloads [] = [] from rfl, List.flatten_nil, List.drop_nil,
        valueOf_short (Nat.lt_of_lt_of_le (by decide) (Nat.le_add_right 3 _))]
      split
      · exact .inr rfl
      · exact .inl rfl
  | cons e es ih =>
    have length : (front ++ bytesOf (e :: es)).length =
        front.length + (2 + e.data.length + (bytesOf es).length) := by
      rw [bytesOf_cons, List.length_append, List.length_append, e.bytes_length]
      omega
    have next : ∀ {s}, Expects attr buf bufsize (payloads es) s value →
        ∃ ret s', ieLoop (front ++ bytesOf (e :: es)) attr
            (front.length + (e.data.length + 2)) s = .ok (ret, s') ∧
          Answer buf bufsize value ret s'.out := by
      intro s expects
      have rest := ih (front ++ e.bytes) expects
      rwa [List.length_append, e.bytes_length, List.append_assoc] at rest
    rw [ieLoop, if_pos (by omega), if_neg (by omega), readU8_of_le (by omega)]
    simp only [bind, Except.bind]
    rw [bytesOf_cons, u8At_len, isP2p_element, ← bytesOf_cons, if_neg (by omega)]
    cases found : payload e with
    | none =>
      rw [payloads, List.filterMap_cons_none found] at expects
      exact next expects
    | some p =>
      rw [payloads, List.filterMap_cons_some found] at expects
      obtain ⟨head, six, bytes, size⟩ := bytes_of_payload found
      obtain ⟨flow, result, leads⟩ := p2pElement_leads (front ++ head) (bytesOf es)
        expects
      have buffer : front ++ bytesOf (e :: es) = front ++ head ++ (p ++ bytesOf es) := by
        rw [bytesOf_cons, bytes, List.append_assoc, List.append_assoc]
      rw [← buffer, List.length_append, six] at result
      simp only [Option.isSome_some, if_true]
      rw [show e.data.length - 4 = p.length by omega, result]
      cases flow with
      | returned ret s => exact ⟨ret, s, rfl, leads⟩
      | goesOn s => exact next leads

end Run

/-! ## The function -/

/-- For any buffer, the function returns without having read outside; if the buffer is made of
elements and no attribute header is split between P2P elements, then it finds the first complete
attribute of their payloads. -/
theorem p2pAttr_found (ies : List UInt8) (attr : Nat) (buf : Bool) (bufsize : Nat) :
    ∃ ret out, cfg80211GetP2pAttr ies attr buf bufsize = .ok (ret, out) ∧
      ∀ es : List Ie, ies = bytesOf es → HeadersWhole 0 (payloads es) →
        Answer buf bufsize (valueOf attr (payloads es).flatten) ret out := by
  obtain ⟨⟨ret, s⟩, result⟩ := ieLoop_returns ies attr 0 ⟨if buf then some [] else none, bufsize,
    0, false, 0⟩
  refine ⟨ret, s.out, by rw [cfg80211GetP2pAttr, result]; rfl, ?_⟩
  rintro es rfl whole
  have start : Collected buf bufsize [] ⟨if buf then some [] else none, bufsize, 0, false, 0⟩ :=
    ⟨rfl, by rw [List.take_nil], fun _ => rfl⟩
  have expects : Expects attr buf bufsize (payloads es) _ _ := .other start rfl whole
  obtain ⟨ret', s', result', answer⟩ := ieLoop_answers es [] expects
  rw [List.nil_append, List.length_nil, result] at result'
  cases result'
  exact answer

/-- An attribute goes on behind an element that is not a P2P one. -/
def splitAttr : List Ie :=
  [⟨221, [0x50, 0x6f, 0x9a, 0x09, 5, 1, 0, 7, 2, 4, 0, 1, 2], by decide⟩, ⟨0, [8], by decide⟩,
    ⟨221, [0x50, 0x6f, 0x9a, 0x09, 3, 4], by decide⟩]

theorem p2pAttr_found_split :
    ∃ ret out, cfg80211GetP2pAttr (bytesOf splitAttr) 2 true 3 = .ok (ret, out) ∧
      Answer true 3 (some [1, 2, 3, 4]) ret out := by
  obtain ⟨ret, out, result, answer⟩ := p2pAttr_found (bytesOf splitAttr) 2 true 3
  have value : valueOf 2 (payloads splitAttr).flatten = some [1, 2, 3, 4] := by decide +kernel
  exact ⟨ret, out, result, value ▸ answer splitAttr rfl (by decide +kernel)⟩

end Iwlwifi.P2pAttr
