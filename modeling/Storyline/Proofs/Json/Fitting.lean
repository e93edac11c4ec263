/-
What a reader gives fits into its room: whole numbers have at most as
many digits as they were written with, doubles are in normal form or not
finite, and every container that holds something was opened below
fewer than the tolerated number of others.

# What carries it

The invariant is `Reader.Fits`: the values in the frames of the stack fit
below the containers around them. One step keeps it (`Reader.Fits.step`),
so a run of the reader does.

Main statements: `fits_of_ofString`, `Fits.settled`, `settled_settled`.
-/
import Storyline.Proofs.Dict
import Storyline.Proofs.Json.RoundTrip

namespace Storyline

namespace Json

open Numeral (natChars)

/-- The least number that has more digits than are read. -/
def countLimit : Nat := 10 ^ numberLimit

/-- Numbers with up to three digits are less. -/
theorem lt_countLimit {n : Nat} (h : n < 10 ^ 3) : n < countLimit :=
  Nat.lt_of_lt_of_le h (Nat.pow_le_pow_right (by decide) (by decide))

theorem isShort_of_lt {z : Int} (h : z.natAbs < countLimit) : IsShort z := by
  unfold IsShort
  rw [Numeral.length_natChars]
  exact Numeral.length_digits_le _ (by decide) h

/-- Digits that are not too many spell a short number. -/
theorem isShort_signed_ofDigits {ds : List Nat} (hds : ∀ d ∈ ds, d < 10)
    (hlength : ds.length ≤ numberLimit) (negative : Bool) :
    IsShort (Numeral.signed negative (Numeral.ofDigits ds)) := by
  apply isShort_of_lt
  rw [Numeral.natAbs_signed]
  exact Nat.lt_of_lt_of_le (Numeral.ofDigits_lt hds)
    (Nat.pow_le_pow_right (by decide) hlength)

-- ============================================================= numbers

/-- A double that was read: one in normal form, or one that is not
finite. -/
def IsRead : Double → Prop
  | .finite _ significand exponent => Double.Normal significand exponent
  | .infinite _ | .nan => True

theorem isRead_ofDecimal (negative : Bool) (digits : Nat) (exponent : Int) :
    IsRead (Double.ofDecimal negative digits exponent) := by
  cases h : Double.ofDecimal negative digits exponent with
  | finite sign significand power =>
      exact (Double.ofDecimal_eq_finite h).2.1
  | infinite sign => trivial
  | nan => trivial

theorem isAsciiDigit_of_isWholePart {cs : List Char}
    (h : isWholePart cs = true) : ∀ c ∈ cs, isAsciiDigit c = true := by
  unfold isWholePart at h
  split at h
  · cases h
  · exact List.all_eq_true.1 rfl
  · simp only [Bool.and_eq_true, List.all_eq_true] at h
    rw [List.forall_mem_cons]
    exact ⟨h.1.2, h.2⟩

theorem asciiDigit_lt {c : Char} (h : isAsciiDigit c = true) :
    c.toNat - 48 < 10 := by
  simp only [isAsciiDigit, Bool.and_eq_true, decide_eq_true_eq] at h
  have hle : c.toNat ≤ 57 := h.2
  omega

theorem isWholePart_of_written? {cs : List Char} {w : Written}
    (h : written? cs = some w) : isWholePart w.whole = true := by
  simp only [written?, Option.bind_eq_bind] at h
  split at h
  · cases h
  · next hwhole =>
    obtain ⟨parts, -, h⟩ := Option.bind_eq_some_iff.1 h
    obtain ⟨exponent, -, h⟩ := Option.bind_eq_some_iff.1 h
    cases h
    simpa using hwhole

/-- A number that is read: a short whole number, or a double. -/
theorem fits_of_value? {tolerance : Tolerance} {w : Written} {json : Json}
    (hwhole : isWholePart w.whole = true)
    (h : w.value? tolerance = some json) (room : Nat) :
    Fits IsRead room json := by
  unfold Written.value? at h
  split at h
  · cases h
  · next hlimit =>
    split at h
    · next hisWhole =>
      cases h
      have hlength : w.whole.length ≤ numberLimit := by
        simpa [hisWhole] using hlimit
      have hdigits : ∀ d ∈ w.whole.map fun c => c.toNat - 48, d < 10 := by
        intro d hd
        obtain ⟨c, hc, rfl⟩ := List.mem_map.1 hd
        exact asciiDigit_lt (isAsciiDigit_of_isWholePart hwhole c hc)
      exact .integer (isShort_signed_ofDigits hdigits
        (by rwa [List.length_map]) w.negative)
    · cases h
      exact .double (isRead_ofDecimal _ _ _)

theorem fits_of_word? {tolerance : Tolerance} {cs : List Char} {json : Json}
    (h : word? tolerance cs = some json) (room : Nat) :
    Fits IsRead room json := by
  unfold word? at h
  split at h
  · next value hvalue =>
    cases h
    have hconstants : ∀ constant ∈ constants, Fits IsRead room constant.2 := by
      intro constant hconstant
      simp only [constants, List.mem_cons, List.not_mem_nil, or_false]
        at hconstant
      rcases hconstant with rfl | rfl | rfl | rfl | rfl | rfl
      · exact .null
      · exact .bool true
      · exact .bool false
      all_goals exact .double trivial
    obtain ⟨before, after, hsplit, -⟩ := List.lookup_eq_some_iff.1 hvalue
    have hmem : (String.ofList cs, json) ∈ constants := by
      rw [hsplit]
      exact List.mem_append_right before List.mem_cons_self
    exact hconstants _ hmem
  · obtain ⟨w, hw, hvalue⟩ := Option.bind_eq_some_iff.1 h
    exact fits_of_value? (isWholePart_of_written? hw) hvalue room

-- ========================================================== the reader

section Reader

variable {good : Double → Prop} {limit : Nat}

/-- The values that a container holds already. -/
def Frame.held : Frame → List Json
  | .array done => done
  | .object done _ => done.map (·.2)

/-- The values fit into a container that is opened below so many. -/
def FitsBelow (good : Double → Prop) (limit height : Nat)
    (values : List Json) : Prop :=
  ∀ value ∈ values, Fits good (limit - (height + 1)) value

/-- Every frame was opened where there was room for it, and what it holds
fits. -/
def StackFits (good : Double → Prop) (limit : Nat) : List Frame → Prop
  | [] => True
  | frame :: outer =>
    outer.length < limit ∧ FitsBelow good limit outer.length frame.held
      ∧ StackFits good limit outer

/-- What the reader holds above so many open containers fits. -/
def Awaiting.Fits (good : Double → Prop) (limit height : Nat) :
    Awaiting → Prop
  | .value | .firstItem | .firstName => True
  | .nextItem done => height < limit ∧ FitsBelow good limit height done
  | .name done | .colon done _ =>
    FitsBelow good limit height (done.map (·.2))
  | .nextMember done =>
    height < limit ∧ FitsBelow good limit height (done.map (·.2))
  | .nothing document => Json.Fits good limit document

/-- All that a reader holds fits. -/
structure Reader.Fits (good : Double → Prop) (limit : Nat)
    (reader : Reader) : Prop where
  awaiting : reader.awaiting.Fits good limit reader.stack.length
  stack : StackFits good limit reader.stack

theorem fitsBelow_nil (height : Nat) : FitsBelow good limit height [] :=
  fun _ h => absurd h List.not_mem_nil

theorem fits_array_of_fitsBelow {height : Nat} {items : List Json}
    (hheight : height < limit) (h : FitsBelow good limit height items) :
    Fits good (limit - height) (.array items.reverse) := by
  have hroom : limit - height = limit - (height + 1) + 1 := by omega
  rw [hroom]
  exact .array fun item hitem => h item (List.mem_reverse.1 hitem)

theorem fits_object_of_fitsBelow {height : Nat}
    {members : List (String × Json)} (hheight : height < limit)
    (h : FitsBelow good limit height (members.map (·.2))) :
    Fits good (limit - height) (.object members.reverse) := by
  have hroom : limit - height = limit - (height + 1) + 1 := by omega
  rw [hroom]
  exact .object fun member hmember =>
    h member.2 (List.mem_map_of_mem (List.mem_reverse.1 hmember))

/-- A value that fits is handed to the container around it. -/
theorem fits_deliver {value : Json} {stack : List Frame}
    (hstack : StackFits good limit stack)
    (hvalue : Fits good (limit - stack.length) value) :
    (Reader.deliver value stack).Fits good limit := by
  cases stack with
  | nil => exact ⟨hvalue, trivial⟩
  | cons frame outer =>
      obtain ⟨hroom, hheld, houter⟩ := hstack
      have hadded (values : List Json)
          (h : FitsBelow good limit outer.length values) :
          FitsBelow good limit outer.length (value :: values) :=
        List.forall_mem_cons.2 ⟨hvalue, h⟩
      cases frame with
      | array done => exact ⟨⟨hroom, hadded done hheld⟩, houter⟩
      | object done name => exact ⟨⟨hroom, hadded _ hheld⟩, houter⟩

theorem orMalformed_eq_ok {α : Type} {value : Option α} {a : α} :
    orMalformed value = .ok a ↔ value = some a := by
  cases value with
  | none => exact ⟨nofun, nofun⟩
  | some b => exact ⟨fun h => by cases h; rfl, fun h => by cases h; rfl⟩

theorem map_eq_ok {α β : Type} {value : Except Fault α} {f : α → β} {b : β} :
    value.map f = .ok b ↔ ∃ a, value = .ok a ∧ f a = b := by
  cases value with
  | error fault => exact ⟨nofun, nofun⟩
  | ok a => simp [Except.map]

theorem push_eq_ok {tolerance : Tolerance} {frame : Frame}
    {stack pushed : List Frame}
    (h : Reader.push tolerance frame stack = .ok pushed) :
    pushed = frame :: stack ∧ stack.length < tolerance.depth := by
  unfold Reader.push at h
  split at h
  · next hroom => exact ⟨(Except.ok.inj h).symm, hroom⟩
  · cases h

variable {tolerance : Tolerance} {after : Reader}

theorem fits_begin {stack : List Frame}
    (hstack : StackFits IsRead tolerance.depth stack) {token : Token}
    (h : Reader.begin tolerance stack token = .ok after) :
    after.Fits IsRead tolerance.depth := by
  unfold Reader.begin at h
  split at h
  · obtain ⟨value, hvalue, rfl⟩ := map_eq_ok.1 h
    exact fits_deliver hstack (fits_of_word? (orMalformed_eq_ok.1 hvalue) _)
  · obtain ⟨s, -, rfl⟩ := map_eq_ok.1 h
    exact fits_deliver hstack (.string s)
  · cases h
    exact ⟨trivial, hstack⟩
  · cases h
    exact ⟨trivial, hstack⟩
  · cases h
  · cases h

theorem fits_readName {done : List (String × Json)} {stack : List Frame}
    (hstack : StackFits good limit stack)
    (hdone : FitsBelow good limit stack.length (done.map (·.2)))
    {token : Token}
    (h : Reader.readName tolerance done stack token = .ok after) :
    after.Fits good limit := by
  unfold Reader.readName at h
  split at h
  · obtain ⟨name, -, rfl⟩ := map_eq_ok.1 h
    exact ⟨hdone, hstack⟩
  · cases h

/-- One token more keeps everything fitting. -/
theorem Reader.Fits.step {reader : Reader}
    (hfits : reader.Fits IsRead tolerance.depth) {token : Token}
    (h : reader.step tolerance token = .ok after) :
    after.Fits IsRead tolerance.depth := by
  obtain ⟨awaiting, stack⟩ := reader
  obtain ⟨hawaiting, hstack⟩ := hfits
  -- a frame that was pushed had room, and holds what was there before it
  have hpush (frame : Frame)
      (hheld : FitsBelow IsRead tolerance.depth stack.length frame.held)
      {pushed : List Frame}
      (h : Reader.push tolerance frame stack = .ok pushed) :
      StackFits IsRead tolerance.depth pushed := by
    obtain ⟨rfl, hroom⟩ := push_eq_ok h
    exact ⟨hroom, hheld, hstack⟩
  cases awaiting with
  | value => exact fits_begin hstack h
  | firstItem =>
      simp only [Reader.step] at h
      split at h
      · cases h
        exact fits_deliver hstack .emptyArray
      · cases hpushed : Reader.push tolerance (.array []) stack with
        | error fault =>
            rw [hpushed] at h
            cases h
        | ok pushed =>
            rw [hpushed] at h
            exact fits_begin (hpush _ (fitsBelow_nil _) hpushed) h
  | nextItem done =>
      obtain ⟨hroom, hdone⟩ := hawaiting
      simp only [Reader.step] at h
      split at h
      · obtain ⟨pushed, hpushed, rfl⟩ := map_eq_ok.1 h
        exact ⟨trivial, hpush (.array done) hdone hpushed⟩
      · cases h
        exact fits_deliver hstack (fits_array_of_fitsBelow hroom hdone)
      · cases h
  | firstName =>
      simp only [Reader.step] at h
      split at h
      · cases h
        exact fits_deliver hstack .emptyObject
      · exact fits_readName hstack (fitsBelow_nil _) h
  | name done => exact fits_readName hstack hawaiting h
  | colon done name =>
      simp only [Reader.step] at h
      split at h
      · obtain ⟨pushed, hpushed, rfl⟩ := map_eq_ok.1 h
        exact ⟨trivial, hpush (.object done name) hawaiting hpushed⟩
      · cases h
  | nextMember done =>
      obtain ⟨hroom, hdone⟩ := hawaiting
      simp only [Reader.step] at h
      split at h
      · cases h
        exact ⟨hdone, hstack⟩
      · cases h
        exact fits_deliver hstack (fits_object_of_fitsBelow hroom hdone)
      · cases h
  | nothing document => cases h

/-- So does any number of tokens. -/
theorem Reader.Fits.foldlM {ts : List Token} {reader : Reader}
    (hfits : reader.Fits IsRead tolerance.depth)
    (h : ts.foldlM (Reader.step tolerance) reader = .ok after) :
    after.Fits IsRead tolerance.depth := by
  induction ts generalizing reader with
  | nil =>
      cases h
      exact hfits
  | cons t ts ih =>
      rw [List.foldlM_cons] at h
      cases hstep : reader.step tolerance t with
      | error fault =>
          rw [hstep] at h
          cases h
      | ok moved =>
          rw [hstep] at h
          exact ih (hfits.step hstep) h

/-- A document that is read fits into the reader's room. -/
theorem fits_of_ofString {text : String} {json : Json}
    (h : ofString tolerance text = .ok json) :
    Fits IsRead tolerance.depth json := by
  unfold ofString ofTokens at h
  cases hrun : (tokens text.toList).foldlM (Reader.step tolerance)
      ⟨.value, []⟩ with
  | error fault =>
      rw [hrun] at h
      cases h
  | ok reader =>
      rw [hrun] at h
      have hbegin : Reader.Fits IsRead tolerance.depth ⟨.value, []⟩ :=
        ⟨trivial, trivial⟩
      have hfits := hbegin.foldlM hrun
      have hdocument := orMalformed_eq_ok.1 h
      unfold Reader.document? at hdocument
      split at hdocument
      · next document hawaiting =>
        cases hdocument
        have := hfits.awaiting
        rwa [hawaiting] at this
      · cases hdocument

end Reader

-- ========================================================= induction

/-- What holds of a container when it holds of all that is in it, and
holds of everything else, holds of every document. -/
@[elab_as_elim]
theorem induction {motive : Json → Prop} (null : motive .null)
    (bool : ∀ value, motive (.bool value))
    (integer : ∀ value, motive (.integer value))
    (double : ∀ value, motive (.double value))
    (string : ∀ value, motive (.string value))
    (array : ∀ items, (∀ item ∈ items, motive item) → motive (.array items))
    (object : ∀ members, (∀ member ∈ members, motive member.2) →
      motive (.object members)) (json : Json) : motive json := by
  match json with
  | .null => exact null
  | .bool value => exact bool value
  | .integer value => exact integer value
  | .double value => exact double value
  | .string value => exact string value
  | .array items =>
    exact array items fun item hitem =>
      induction null bool integer double string array object item
  | .object members =>
    exact object members fun member hmember =>
      induction null bool integer double string array object member.2
termination_by sizeOf json
decreasing_by
  · have := List.sizeOf_lt_of_mem hitem
    simp only [Json.array.sizeOf_spec]
    omega
  · have := List.sizeOf_lt_of_mem hmember
    obtain ⟨name, value⟩ := member
    simp only [Json.object.sizeOf_spec, Prod.mk.sizeOf_spec] at this ⊢
    omega

-- ============================================================ inside

theorem Fits.of_mem_array {good : Double → Prop} {room : Nat}
    {items : List Json} (h : Fits good (room + 1) (.array items)) {item : Json}
    (hitem : item ∈ items) : Fits good room item := by
  cases h with
  | emptyArray => cases hitem
  | array h => exact h item hitem

theorem Fits.of_mem_object {good : Double → Prop} {room : Nat}
    {members : List (String × Json)}
    (h : Fits good (room + 1) (.object members)) {member : String × Json}
    (hmember : member ∈ members) : Fits good room member.2 := by
  cases h with
  | emptyObject => cases hmember
  | object h => exact h member hmember

-- ============================================================== settled

section Settled

variable {good : Double → Prop} {room : Nat}

theorem settledItems_eq (items : List Json) :
    settledItems items = items.map settled := by
  induction items with
  | nil => rfl
  | cons item items ih => rw [settledItems, ih, List.map_cons]

theorem settledMembers_eq (members : List (String × Json)) :
    settledMembers members
      = members.map fun member => (member.1, member.2.settled) := by
  induction members with
  | nil => rfl
  | cons member members ih => rw [settledMembers, ih, List.map_cons]

/-- A member of a settled object is one of the members, settled. -/
theorem exists_of_mem_settle {members : List (String × Json)}
    {member : String × Json}
    (h : member ∈ Dict.settle (settledMembers members)) :
    ∃ old ∈ members, member = (old.1, old.2.settled) := by
  have hmem := Dict.mem_of_mem_settle h
  rw [settledMembers_eq] at hmem
  obtain ⟨old, hold, rfl⟩ := List.mem_map.1 hmem
  exact ⟨old, hold, rfl⟩

theorem Fits.settled {json : Json} (h : Fits good room json) :
    Fits good room json.settled := by
  induction h with
  | null => exact .null
  | bool value => exact .bool value
  | integer h => exact .integer h
  | double h => exact .double h
  | string value => exact .string value
  | emptyArray => exact .emptyArray
  | array h ih =>
      rw [Json.settled, settledItems_eq]
      refine .array fun item hitem => ?_
      obtain ⟨old, hold, rfl⟩ := List.mem_map.1 hitem
      exact ih old hold
  | emptyObject => exact .emptyObject
  | object h ih =>
      refine .object fun member hmember => ?_
      obtain ⟨old, hold, rfl⟩ := exists_of_mem_settle hmember
      exact ih old hold

/-- What is settled stays as it is. -/
theorem settled_settled (json : Json) :
    json.settled.settled = json.settled := by
  induction json using Json.induction with
  | null | bool value | integer value | double value | string value => rfl
  | array items ih =>
      rw [settled, settled, settledItems_eq, settledItems_eq, List.map_map]
      exact congrArg _ (List.map_congr_left ih)
  | object members ih =>
      have hsame : settledMembers (Dict.settle (settledMembers members))
          = Dict.settle (settledMembers members) := by
        rw [settledMembers_eq (Dict.settle _)]
        conv => rhs; rw [← List.map_id (Dict.settle _)]
        refine List.map_congr_left fun member hmember => ?_
        obtain ⟨old, hold, rfl⟩ := exists_of_mem_settle hmember
        exact congrArg (Prod.mk old.1) (ih old hold)
      rw [settled, settled, hsame,
        Dict.settle_of_distinct (Dict.distinct_settle _)]

end Settled

-- ============================================================== doubles

end Json

/-- Whether a double is a number and no infinity. -/
def Double.isFinite : Double → Bool
  | .finite _ _ _ => true
  | .infinite _ | .nan => false

namespace Json

mutual

/-- The doubles in a document. -/
def doubles : Json → List Double
  | .double d => [d]
  | .array items => doublesOfItems items
  | .object members => doublesOfMembers members
  | .null | .bool _ | .integer _ | .string _ => []

/-- The doubles in the items of an array. -/
def doublesOfItems : List Json → List Double
  | [] => []
  | item :: items => item.doubles ++ doublesOfItems items

/-- The doubles in the values of an object. -/
def doublesOfMembers : List (String × Json) → List Double
  | [] => []
  | (_, value) :: members => value.doubles ++ doublesOfMembers members

end

theorem doublesOfItems_eq (items : List Json) :
    doublesOfItems items = items.flatMap doubles := by
  induction items with
  | nil => rfl
  | cons item items ih => rw [doublesOfItems, ih, List.flatMap_cons]

theorem doublesOfMembers_eq (members : List (String × Json)) :
    doublesOfMembers members = members.flatMap (·.2.doubles) := by
  induction members with
  | nil => rfl
  | cons member members ih => rw [doublesOfMembers, ih, List.flatMap_cons]

/-- Every double in the document is finite. -/
def OnlyFinite (json : Json) : Prop := ∀ d ∈ json.doubles, d.isFinite = true

/-- What was read with finite doubles only can be written and read. -/
theorem Fits.isNormal {room : Nat} {json : Json} (h : Fits IsRead room json)
    (hfinite : json.OnlyFinite) : Fits IsNormal room json := by
  induction h with
  | null => exact .null
  | bool value => exact .bool value
  | integer h => exact .integer h
  | @double room d h =>
      have hd := hfinite d (List.mem_singleton.2 rfl)
      cases d with
      | finite negative significand exponent =>
          exact .double ⟨negative, significand, exponent, rfl, h⟩
      | infinite negative => cases hd
      | nan => cases hd
  | string value => exact .string value
  | emptyArray => exact .emptyArray
  | array h ih =>
      unfold OnlyFinite at hfinite
      rw [doubles, doublesOfItems_eq] at hfinite
      refine .array fun item hitem => ih item hitem fun d hd => ?_
      exact hfinite d (List.mem_flatMap.2 ⟨item, hitem, hd⟩)
  | emptyObject => exact .emptyObject
  | object h ih =>
      unfold OnlyFinite at hfinite
      rw [doubles, doublesOfMembers_eq] at hfinite
      refine .object fun member hmember => ih member hmember fun d hd => ?_
      exact hfinite d (List.mem_flatMap.2 ⟨member, hmember, hd⟩)

end Json

end Storyline
