import ScreenScript.Proofs.Json.Depth
import ScreenScript.Proofs.Node.Assembly

/-!
What can be decoded: words that pass through floating-point numbers unchanged, and no more
generations of children than the nesting of the text has room for.
-/

namespace ScreenScript.Node

open Json

namespace Bounds

def Words (P : Int64 → Prop) (b : Bounds) : Prop :=
  ∀ e, P (b.edge e)

end Bounds

namespace Info

mutual

def Words (P : Int64 → Prop) : Info → Prop
  | { bounds, indexInParent, depth, drawingOrder, childCount, children, .. } =>
    bounds.Words P ∧ P indexInParent ∧ P depth ∧ P drawingOrder ∧ P childCount ∧
      WordsAll P children

def WordsAll (P : Int64 → Prop) : List Info → Prop
  | [] => True
  | i :: is => Words P i ∧ WordsAll P is

end

mutual

/-- The length of the longest line of descent below a node. -/
def generations : Info → Nat
  | { children, .. } => generationsAll children

def generationsAll : List Info → Nat
  | [] => 0
  | i :: is => max (generations i + 1) (generationsAll is)

end

theorem words_iff {P : Int64 → Prop} {i : Info} :
    i.Words P ↔ i.bounds.Words P ∧ P i.indexInParent ∧ P i.depth ∧ P i.drawingOrder ∧
      P i.childCount ∧ WordsAll P i.children := by
  cases i
  rfl

theorem generations_eq (i : Info) : i.generations = generationsAll i.children := by
  cases i
  rfl

theorem wordsAll_iff {P : Int64 → Prop} {is : List Info} :
    WordsAll P is ↔ ∀ i ∈ is, i.Words P := by
  induction is with
  | nil => simp [WordsAll]
  | cons i is ih => rw [WordsAll, ih, List.forall_mem_cons]

theorem generationsAll_le {is : List Info} {n : Nat} :
    generationsAll is ≤ n ↔ ∀ i ∈ is, i.generations + 1 ≤ n := by
  induction is with
  | nil => simp [generationsAll]
  | cons i is ih => rw [generationsAll, Nat.max_le, ih, List.forall_mem_cons]

end Info

def Exact (n : Int64) : Prop :=
  Word.throughReal n = n

theorem exact_toWord {x : Option Binary64} (hx : ∀ y, x = some y → y.Proper) {default : Int64}
    (hdefault : Exact default) : Exact ((x.map Binary64.toWord).getD default) := by
  cases x with
  | none => exact hdefault
  | some y => exact Binary64.throughReal_toWord (hx y rfl)

theorem exact_zero : Exact 0 := Word.throughReal_small (by decide)

structure Reading.Fine (n : Nat) (r : Reading) : Prop where
  number : ∀ x, r.number = some x → ∀ y, x = some y → y.Proper
  bounds : ∀ b, r.bounds = some b → b.Words Exact
  children : ∀ is, r.children = some is → ∀ i ∈ is, i.Words Exact ∧ 2 * i.generations + 2 ≤ n

namespace Bounds

theorem edgeOf_exact {es : List (Edge × Option (Option Binary64))}
    (hes : ∀ m ∈ es, ∀ x, m.2 = some x → ∀ y, x = some y → y.Proper) {e : Edge} {n : Int64}
    (h : edgeOf es e = some n) : Exact n := by
  rw [edgeOf] at h
  split at h
  · next e' r hfind =>
    obtain ⟨x, rfl, rfl⟩ := Option.map_eq_some_iff.mp h
    exact exact_toWord (hes _ (List.mem_of_find?_eq_some hfind) x rfl) exact_zero
  · cases h
    exact exact_zero

theorem ofEdges_exact {es : List (Edge × Option (Option Binary64))}
    (hes : ∀ m ∈ es, ∀ x, m.2 = some x → ∀ y, x = some y → y.Proper) {b : Bounds}
    (h : ofEdges es = some b) : b.Words Exact := by
  rw [ofEdges] at h
  split_ifs at h
  simp only [Option.bind_eq_bind, Option.bind_eq_some_iff, Option.pure_def, Option.some.injEq] at h
  obtain ⟨left, hleft, top, htop, right, hright, bottom, hbottom, rfl⟩ := h
  intro e
  cases e with
  | left => exact edgeOf_exact hes hleft
  | top => exact edgeOf_exact hes htop
  | right => exact edgeOf_exact hes hright
  | bottom => exact edgeOf_exact hes hbottom

theorem ofOrder_exact {rs : List (Option (Option Binary64))}
    (hrs : ∀ r ∈ rs, ∀ x, r = some x → ∀ y, x = some y → y.Proper) {b : Bounds}
    (h : ofOrder rs = some b) : b.Words Exact := by
  rw [ofOrder] at h
  split_ifs at h
  exact ofEdges_exact (fun m hm => hrs m.2 (List.of_mem_zip hm).2) h

theorem default_words {P : Int64 → Prop} (h : P 0) : Words P {} := by
  intro e
  cases e <;> exact h

end Bounds

namespace Info

theorem part_some {α : Type} {rs : List (Slot × Reading)} {s : Slot} {read : Reading → Option α}
    {default a : α} (h : part rs s read default = some a) :
    a = default ∨ ∃ m ∈ rs, read m.2 = some a := by
  rw [part] at h
  split at h
  · next s' r hfind => exact .inr ⟨(s', r), List.mem_of_find?_eq_some hfind, h⟩
  · cases h
    exact .inl rfl

theorem numberPart_exact {n : Nat} {rs : List (Slot × Reading)}
    (hrs : ∀ m ∈ rs, Reading.Fine n m.2) {s : Slot} {default w : Int64} (hdefault : Exact default)
    (h : numberPart rs s default = some w) : Exact w := by
  rcases part_some h with rfl | ⟨m, hm, hread⟩
  · exact hdefault
  · obtain ⟨x, hx, rfl⟩ := Option.map_eq_some_iff.mp hread
    exact exact_toWord ((hrs m hm).number x hx) hdefault

structure Parts (rs : List (Slot × Reading)) (i : Info) : Prop where
  field : ∀ f, textPart rs f = some (i.field f)
  bounds : part rs .bounds (·.bounds) {} = some i.bounds
  indexInParent : numberPart rs .indexInParent (-1) = some i.indexInParent
  depth : numberPart rs .depth 0 = some i.depth
  drawingOrder : numberPart rs .drawingOrder 0 = some i.drawingOrder
  childCount : numberPart rs .childCount 0 = some i.childCount
  flag : ∀ f, flagPart rs f = some (i.flag f)
  children : part rs .children (·.children) [] = some i.children

theorem parts_of_ofReadings {rs : List (Slot × Reading)} {i : Info} (h : ofReadings rs = some i) :
    Parts rs i := by
  rw [ofReadings] at h
  split_ifs at h
  iterate 22
    replace h := Option.bind_eq_some_iff.mp h
    obtain ⟨_, _, h⟩ := h
  rename_i _ htext _ hid _ hclass _ hdesc _ hpackage _ hbounds _ hindex _ hdepth _ horder _ hcount
    _ hclick _ hlong _ hscroll _ henabled _ hchecked _ hselected _ hfocusable _ hfocused _ hcheckable
    _ heditable _ hvisible _ hchildren
  cases h
  refine ⟨?_, hbounds, hindex, hdepth, horder, hcount, ?_, hchildren⟩
  · intro f
    cases f with
    | text => exact htext
    | desc => exact hdesc
    | id => exact hid
    | className => exact hclass
    | packageName => exact hpackage
  · intro f
    cases f with
    | clickable => exact hclick
    | longClickable => exact hlong
    | scrollable => exact hscroll
    | enabled => exact henabled
    | checked => exact hchecked
    | selected => exact hselected
    | focusable => exact hfocusable
    | focused => exact hfocused
    | checkable => exact hcheckable
    | editable => exact heditable
    | visibleToUser => exact hvisible

theorem Parts.ofReadings {rs : List (Slot × Reading)} {i : Info} (h : Parts rs i)
    (hkeys : (rs.map (·.1)).Nodup) : ofReadings rs = some i := by
  rw [Info.ofReadings, if_pos hkeys, h.field .text, h.field .id, h.field .className, h.field .desc,
    h.field .packageName, h.bounds, h.indexInParent, h.depth, h.drawingOrder, h.childCount,
    h.flag .clickable, h.flag .longClickable, h.flag .scrollable, h.flag .enabled, h.flag .checked,
    h.flag .selected, h.flag .focusable, h.flag .focused, h.flag .checkable, h.flag .editable,
    h.flag .visibleToUser, h.children]
  cases i
  rfl

theorem ofReadings_fine {n : Nat} {rs : List (Slot × Reading)}
    (hrs : ∀ m ∈ rs, Reading.Fine n m.2) {i : Info} (h : ofReadings rs = some i) :
    i.Words Exact ∧ 2 * i.generations ≤ n := by
  obtain ⟨-, hbounds, hindex, hdepth, horder, hcount, -, hchildren⟩ := parts_of_ofReadings h
  have hexact : Word.throughReal (-1) = -1 := Word.throughReal_small (by decide)
  have hkids : ∀ j ∈ i.children, j.Words Exact ∧ 2 * j.generations + 2 ≤ n := by
    rcases part_some hchildren with hnone | ⟨m, hm, hread⟩
    · simp [hnone]
    · exact (hrs m hm).children i.children hread
  constructor
  · rw [words_iff]
    refine ⟨?_, numberPart_exact hrs hexact hindex, numberPart_exact hrs exact_zero hdepth,
      numberPart_exact hrs exact_zero horder, numberPart_exact hrs exact_zero hcount,
      wordsAll_iff.mpr fun j hj => (hkids j hj).1⟩
    rcases part_some hbounds with hnone | ⟨m, hm, hread⟩
    · rw [hnone]
      exact Bounds.default_words exact_zero
    · exact (hrs m hm).bounds i.bounds hread
  · have hle : generationsAll i.children ≤ n / 2 := by
      apply generationsAll_le.mpr
      intro j hj
      have := (hkids j hj).2
      omega
    rw [generations_eq]
    omega

end Info

namespace Reading

theorem numberOfValue_proper {n : Nat} {v : Value} (hv : v.Fine n) {x : Option Binary64}
    (h : numberOfValue v = some x) : ∀ y, x = some y → y.Proper := by
  cases v with
  | null => cases h; rintro y ⟨⟩
  | number m =>
    cases h
    rintro y ⟨⟩
    exact hv
  | bool b => cases h
  | string s => cases h
  | array vs => cases h
  | object ms => cases h

theorem boundsOfValue_exact {n : Nat} {v : Value} (hv : v.Fine n) {b : Bounds}
    (h : boundsOfValue v = some b) : b.Words Exact := by
  cases v with
  | null => cases h; exact Bounds.default_words exact_zero
  | array vs =>
    refine Bounds.ofOrder_exact ?_ h
    intro r hr x hx
    obtain ⟨v, hv', rfl⟩ := List.mem_map.mp hr
    exact numberOfValue_proper (Value.fineItems_iff.mp hv.2 v hv') hx
  | object ms =>
    rw [boundsOfValue_object] at h
    refine Bounds.ofEdges_exact ?_ h
    intro m hm x hx
    obtain ⟨⟨k, v⟩, hv', hmember⟩ := List.mem_filterMap.mp hm
    obtain ⟨e, -, rfl⟩ := Option.map_eq_some_iff.mp hmember
    exact numberOfValue_proper (Value.fineMembers_iff.mp hv.2 _ hv') hx
  | bool b => cases h
  | string s => cases h
  | number m => cases h

end Reading

mutual

theorem Info.ofValue_fine : ∀ (v : Value) {n : Nat} {i : Info}, v.Fine n → ofValue? v = some i →
    i.Words Exact ∧ 2 * i.generations + 1 ≤ n
  | .object ms, n, i, hv, h => by
    have hrs := Info.readings_fine ms hv.2
    have hi := Info.ofReadings_fine hrs h
    have hn := hv.1
    exact ⟨hi.1, by omega⟩
  | .null, _, _, _, h => by cases h
  | .bool _, _, _, _, h => by cases h
  | .number _, _, _, _, h => by cases h
  | .string _, _, _, _, h => by cases h
  | .array _, _, _, _, h => by cases h

theorem Info.ofValues_fine : ∀ (vs : List Value) {n : Nat}, Value.FineItems n vs →
    ∀ i ∈ ofValues vs, i.Words Exact ∧ 2 * i.generations + 1 ≤ n
  | [], _, _ => by simp [Info.ofValues]
  | v :: vs, n, hvs => by
    have ih := Info.ofValues_fine vs hvs.2
    rw [Info.ofValues]
    split
    · next i hi => exact List.forall_mem_cons.mpr ⟨Info.ofValue_fine v hvs.1 hi, ih⟩
    · exact ih

theorem Info.childrenOf_fine : ∀ (v : Value) {n : Nat} {is : List Info}, v.Fine n →
    childrenOf v = some is → ∀ i ∈ is, i.Words Exact ∧ 2 * i.generations + 2 ≤ n
  | .array vs, n, is, hv, h => by
    cases h
    intro i hi
    -- A generation takes two levels: the list of children, and the child.
    have hn := hv.1
    have hi := Info.ofValues_fine vs hv.2 i hi
    exact ⟨hi.1, by omega⟩
  | .null, _, _, _, h => by cases h; simp
  | .bool _, _, _, _, h => by cases h
  | .number _, _, _, _, h => by cases h
  | .string _, _, _, _, h => by cases h
  | .object _, _, _, _, h => by cases h

theorem Info.readings_fine : ∀ (ms : List (String × Value)) {n : Nat}, Value.FineMembers n ms →
    ∀ m ∈ readings ms, Reading.Fine n m.2
  | [], _, _ => by simp [Info.readings]
  | (k, v) :: ms, n, hms => by
    have ih := Info.readings_fine ms hms.2
    have hchildren (is : List Info) (h : Info.childrenOf v = some is) :=
      Info.childrenOf_fine v hms.1 h
    rw [Info.readings]
    split
    · exact List.forall_mem_cons.mpr ⟨⟨fun x => Reading.numberOfValue_proper hms.1,
        fun b => Reading.boundsOfValue_exact hms.1, hchildren⟩, ih⟩
    · exact ih

end

namespace Reading

theorem numberOfWritten_proper {w : Written} {x : Option Binary64}
    (h : numberOfWritten w = some x) : ∀ y, x = some y → y.Proper := by
  cases w with
  | null => cases h; rintro y ⟨⟩
  | number t =>
    obtain ⟨m, hm, rfl⟩ := Option.map_eq_some_iff.mp h
    rintro y ⟨⟩
    exact Numeral.number_proper hm
  | bool b => cases h
  | string s => cases h
  | array ws => cases h
  | object ms => cases h

theorem edgesOfWritten_proper {ms : List (Option String × Written)}
    {es : List (Edge × Option (Option Binary64))} (h : edgesOfWritten ms = some es) :
    ∀ m ∈ es, ∀ x, m.2 = some x → ∀ y, x = some y → y.Proper := by
  induction ms generalizing es with
  | nil => cases h; simp
  | cons m ms ih =>
    obtain ⟨k, w⟩ := m
    cases k with
    | none => cases h
    | some k =>
      obtain ⟨es', hes, h⟩ := Option.bind_eq_some_iff.mp h
      cases h
      split
      · exact List.forall_mem_cons.mpr ⟨fun x => numberOfWritten_proper, ih hes⟩
      · exact ih hes

theorem ofWritten_fine {n : Nat} {w : Written} (hw : w.depth ≤ n) : (ofWritten w).Fine n := by
  refine ⟨fun x => numberOfWritten_proper, ?_, ?_⟩
  · intro b h
    change boundsOfWritten w = some b at h
    cases w with
    | null => cases h; exact Bounds.default_words exact_zero
    | array ws =>
      refine Bounds.ofOrder_exact ?_ h
      intro r hr x hx
      obtain ⟨w, -, rfl⟩ := List.mem_map.mp hr
      exact numberOfWritten_proper hx
    | object ms =>
      obtain ⟨es, hes, h⟩ := Option.bind_eq_some_iff.mp h
      exact Bounds.ofEdges_exact (edgesOfWritten_proper hes) h
    | bool b => cases h
    | string s => cases h
    | number m => cases h
  · intro is h
    change childrenOfWritten w = some is at h
    cases w with
    | null => cases h; simp
    | array ws =>
      obtain ⟨vs, hvs, rfl⟩ := Option.map_eq_some_iff.mp h
      rw [Written.depth] at hw
      intro i hi
      have hfine := Value.ofItems_fine ws hvs (n := n - 1) (by omega)
      have hi := Info.ofValues_fine vs hfine i hi
      exact ⟨hi.1, by omega⟩
    | bool b => cases h
    | string s => cases h
    | number m => cases h
    | object ms => cases h

theorem ofMembers_fine {n : Nat} {ms : List (Option String × Written)}
    (hms : Written.depthMembers ms ≤ n) {rs : List (Slot × Reading)}
    (h : ofMembers ms = some rs) : ∀ m ∈ rs, Reading.Fine n m.2 := by
  induction ms generalizing rs with
  | nil => cases h; simp
  | cons m ms ih =>
    obtain ⟨k, w⟩ := m
    rw [Written.depthMembers, Nat.max_le] at hms
    cases k with
    | none => cases h
    | some k =>
      obtain ⟨rs', hrs, h⟩ := Option.bind_eq_some_iff.mp h
      cases h
      split
      · exact List.forall_mem_cons.mpr ⟨ofWritten_fine hms.1, ih hms.2 hrs⟩
      · exact ih hms.2 hrs

end Reading

theorem Info.ofWritten_fine {n : Nat} {w : Written} (hw : w.depth ≤ n) {i : Info}
    (h : ofWritten? w = some i) : i.Words Exact ∧ 2 * i.generations + 1 ≤ n := by
  cases w with
  | object ms =>
    obtain ⟨rs, hrs, h⟩ := Option.bind_eq_some_iff.mp h
    rw [Written.depth] at hw
    have hfine := Reading.ofMembers_fine (n := n - 1) (by omega) hrs
    have hi := ofReadings_fine hfine h
    exact ⟨hi.1, by omega⟩
  | array ws =>
    rw [ofWritten?] at h
    split_ifs at h
    rw [Written.depth] at hw
    have hitems := Written.depthItems_le.mp (show Written.depthItems ws ≤ n - 1 by omega)
    have hi := ofReadings_fine (n := n - 1) ?_ h
    · exact ⟨hi.1, by omega⟩
    · intro m hm
      obtain ⟨w, hw', heq⟩ := List.mem_map.mp (List.of_mem_zip hm).2
      rw [← heq]
      exact Reading.ofWritten_fine (hitems w hw')
  | null => cases h
  | bool b => cases h
  | number m => cases h
  | string s => cases h

end ScreenScript.Node
