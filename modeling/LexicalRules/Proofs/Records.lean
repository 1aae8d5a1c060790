import LexicalRules.Json.Record
import Mathlib.Data.List.Pairwise

/-! # The members of a record

`Shape.Takes` says all that reading one member can do, and `ofMembers_cons_ok` that reading members is
doing so for one after the other. So a member may be replaced by one that reads the same
(`ofMembers_replaced`), and left out where it changes nothing (`ofMembers_optional`). Three laws follow
for every shape:

* `ofMembers_keeps`: what the changes of the fields keep, the reading of a record keeps;
* `ofMembers_perm`: members of a record whose fields do not get in each other's way may stand in any
  order;
* `read_of_widens`: members that belong to no field may be added where the shape is not strict, and
  `ofMembers_foreign` that they are refused where it is.
-/

namespace LexicalRules.Json
set_option autoImplicit false

/-! ## Values that are JSON -/

/-- JSON to the end: no break in it. -/
inductive Outline.IsWhole : Outline → Prop where
  | null : IsWhole .null
  | bool (b : Bool) : IsWhole (.bool b)
  | number (f : Figure) : IsWhole (.number f)
  | string (s : Option String) : IsWhole (.string s)
  | array (items : List Outline) (h : ∀ v ∈ items, IsWhole v) : IsWhole (.array items none)
  | object (members : List (Option String × Outline)) (h : ∀ m ∈ members, IsWhole m.2) :
      IsWhole (.object members none)

theorem Outline.passItems_ok (items : List Outline) (h : ∀ v ∈ items, v.pass = .ok ()) :
    passItems items = .ok () := by
  induction items with
  | nil => rfl
  | cons v vs ih =>
    have hvs := ih fun w hw => h w (List.mem_cons_of_mem v hw)
    rw [passItems, h v List.mem_cons_self, hvs]
    rfl

theorem Outline.passMembers_ok (members : List (Option String × Outline))
    (h : ∀ m ∈ members, m.2.pass = .ok ()) : passMembers members = .ok () := by
  induction members with
  | nil => rfl
  | cons m ms ih =>
    have hms := ih fun n hn => h n (List.mem_cons_of_mem m hn)
    rw [passMembers, h m List.mem_cons_self, hms]
    rfl

theorem Outline.IsWhole.pass {v : Outline} (h : v.IsWhole) : v.pass = .ok () := by
  induction h with
  | null => rfl
  | bool b => rfl
  | number f => rfl
  | string s => rfl
  | array items _ ih =>
    rw [Outline.pass, passItems_ok items ih]
    rfl
  | object members _ ih =>
    rw [Outline.pass, passMembers_ok members ih]
    rfl

/-! ## Readings made of others -/

theorem map_eq_ok_iff {α β : Type} {e : Except Fault α} {change : α → β} {b : β} :
    e.map change = .ok b ↔ ∃ a, e = .ok a ∧ change a = b := by
  cases e with
  | error fault => simp [Except.map]
  | ok a => simp [Except.map]

theorem Reading.mapM_replaced {α : Type} {r : Reading α} {R : Outline → Outline → Prop}
    (hR : ∀ v w a, R v w → r v = .ok a → r w = .ok a) {vs ws : List Outline}
    (hvw : List.Forall₂ R vs ws) {as : List α} (h : vs.mapM r = .ok as) : ws.mapM r = .ok as := by
  induction hvw generalizing as with
  | nil => exact h
  | @cons v w vs ws hvw _ ih =>
    rw [List.mapM_cons] at h ⊢
    cases hv : r v with
    | error e =>
      rw [hv] at h
      cases h
    | ok a =>
      cases hvs : vs.mapM r with
      | error e =>
        rw [hv, hvs] at h
        cases h
      | ok as' =>
        rw [hv, hvs] at h
        rw [hR v w a hvw hv, ih hvs]
        exact h

/-- A list may be replaced by one with an element in each place of which `r` reads the same. -/
theorem Reading.list_replaced {α : Type} {r : Reading α} {R : Outline → Outline → Prop}
    (hR : ∀ v w a, R v w → r v = .ok a → r w = .ok a) {vs ws : List Outline}
    (hvw : List.Forall₂ R vs ws) {as : List α} (h : r.list (.array vs none) = .ok as) :
    r.list (.array ws none) = .ok as := by
  unfold Reading.list at h ⊢
  cases hvs : vs.mapM r with
  | error e =>
    simp only [hvs] at h
    cases h
  | ok as' =>
    simp only [hvs] at h
    simp only [mapM_replaced hR hvw hvs]
    exact h

variable {σ : Type}

/-! ## One member -/

/-- What one member does to the fields seen so far and to the record. -/
inductive Shape.Takes (shape : Shape σ) (seen : List String) (x : σ) :
    Option String × Outline → List String → σ → Prop where
  | field (k : String) (f : Field σ) (v : Outline) (change : σ → σ)
      (hf : shape.fields.find? (fun g => g.name == k) = some f) (hs : k ∉ seen)
      (hp : f.put v = .ok change) : Takes shape seen x (some k, v) (k :: seen) (change x)
  | passed (k : String) (v : Outline)
      (hf : shape.fields.find? (fun g => g.name == k) = none) (hs : shape.strict = false)
      (hv : v.pass = .ok ()) : Takes shape seen x (some k, v) seen x

namespace Shape
variable {shape : Shape σ} {ending : Option Break} {seen seen' : List String} {x x' y : σ}

theorem ofMembers_of_takes {m : Option String × Outline} {ms : List (Option String × Outline)}
    (h : shape.Takes seen x m seen' x') :
    shape.ofMembers ending (m :: ms) seen x = shape.ofMembers ending ms seen' x' := by
  cases h with
  | field k f v change hf hs hp =>
    have hc : seen.contains k = false := by simpa using hs
    simp only [ofMembers, hf, hc, hp, Bool.false_eq_true, if_false]
  | passed k v hf hs hv => simp only [ofMembers, hf, hs, hv, Bool.false_eq_true, if_false]

theorem exists_takes {m : Option String × Outline} {ms : List (Option String × Outline)}
    (h : shape.ofMembers ending (m :: ms) seen x = .ok y) :
    ∃ seen' x', shape.Takes seen x m seen' x' := by
  obtain ⟨k, v⟩ := m
  cases k with
  | none => cases h
  | some k =>
    unfold ofMembers at h
    split at h
    · rename_i f hf
      split at h
      · cases h
      · rename_i hs
        split at h
        · rename_i change hp
          exact ⟨_, _, .field k f v change hf (by simpa using hs) hp⟩
        · cases h
    · rename_i hf
      split at h
      · cases h
      · rename_i hs
        split at h
        · rename_i u hv
          exact ⟨_, _, .passed k v hf (by simpa using hs) hv⟩
        · cases h

/-- **One member after the other.** -/
theorem ofMembers_cons_ok {m : Option String × Outline} {ms : List (Option String × Outline)} :
    shape.ofMembers ending (m :: ms) seen x = .ok y ↔
      ∃ seen' x', shape.Takes seen x m seen' x' ∧ shape.ofMembers ending ms seen' x' = .ok y := by
  constructor
  · intro h
    obtain ⟨seen', x', ht⟩ := exists_takes h
    rw [ofMembers_of_takes ht] at h
    exact ⟨seen', x', ht, h⟩
  · rintro ⟨seen', x', ht, h⟩
    rwa [ofMembers_of_takes ht]

theorem ofMembers_nil_ok :
    shape.ofMembers ending [] seen x = .ok y ↔
      ending = none ∧ shape.complete seen = true ∧ x = y := by
  unfold ofMembers
  cases ending with
  | some b => simp
  | none =>
    cases hc : shape.complete seen with
    | true => simp
    | false => simp

/-- A member that is left out where it would change nothing has its effect all the same. All that has
been seen by then is in `names`, and in `k :: names` afterwards. -/
theorem ofMembers_optional (k : String) {f : Field σ}
    {c ms : List (Option String × Outline)} {seen names : List String} {x : σ} (y : σ)
    {result : Except Fault σ} (hf : shape.fields.find? (fun g => g.name == k) = some f)
    (hnames : seen ⊆ names) (hk : k ∉ names)
    (hc : (∃ v change, c = [(some k, v)] ∧ f.put v = .ok change ∧ change x = y) ∨
      (c = [] ∧ x = y))
    (h : ∀ seen', seen ⊆ seen' → seen' ⊆ k :: names → shape.ofMembers none ms seen' y = result) :
    shape.ofMembers none (c ++ ms) seen x = result := by
  obtain ⟨v, change, rfl, hp, rfl⟩ | ⟨rfl, rfl⟩ := hc
  · have htakes : shape.Takes seen x (some k, v) (k :: seen) (change x) :=
      .field k f v change hf (fun hs => hk (hnames hs)) hp
    rw [List.singleton_append, ofMembers_of_takes htakes]
    exact h _ (List.subset_cons_self k seen) (List.cons_subset_cons k hnames)
  · exact h seen (List.Subset.refl seen) (List.subset_cons_of_subset k hnames)

/-- A member may be replaced by one of which every field reads the same. -/
theorem ofMembers_replaced {R : Option String × Outline → Option String × Outline → Prop}
    (hR : ∀ m n, R m n → ∀ seen x seen' x', shape.Takes seen x m seen' x' →
      shape.Takes seen x n seen' x')
    {ms ns : List (Option String × Outline)} (hmn : List.Forall₂ R ms ns)
    (h : shape.ofMembers ending ms seen x = .ok y) : shape.ofMembers ending ns seen x = .ok y := by
  induction hmn generalizing seen x with
  | nil => exact h
  | cons hmn _ ih =>
    obtain ⟨seen', x', ht, hms⟩ := ofMembers_cons_ok.mp h
    exact ofMembers_cons_ok.mpr ⟨seen', x', hR _ _ hmn _ _ _ _ ht, ih hms⟩

theorem name_of_find? {k : String} {f : Field σ}
    (h : shape.fields.find? (fun g => g.name == k) = some f) : f ∈ shape.fields ∧ f.name = k := by
  have hk := List.find?_some h
  exact ⟨List.mem_of_find?_eq_some h, by simpa using hk⟩

end Shape

/-! ## What is kept -/

theorem Field.put_of {α : Type} {name : String} {required : Bool} {r : Reading α}
    {set : σ → α → σ} {v : Outline} {a : α} (h : r v = .ok a) :
    (Field.of name required r set).put v = .ok fun x => set x a :=
  map_eq_ok_iff.mpr ⟨a, h, rfl⟩

theorem Field.exists_of_put {α : Type} {name : String} {required : Bool} {r : Reading α}
    {set : σ → α → σ} {v : Outline} {change : σ → σ}
    (h : (Field.of name required r set).put v = .ok change) :
    ∃ a, r v = .ok a ∧ change = fun x => set x a := by
  obtain ⟨a, ha, hchange⟩ := map_eq_ok_iff.mp h
  exact ⟨a, ha, hchange.symm⟩

/-- Whatever the field reads, the change of the record keeps `P`. -/
def Field.Keeps (P : σ → Prop) (f : Field σ) : Prop :=
  ∀ v change, f.put v = .ok change → ∀ x, P x → P (change x)

theorem Field.keeps_of {α : Type} {P : σ → Prop} {name : String} {required : Bool} {r : Reading α}
    {set : σ → α → σ} (h : ∀ v a, r v = .ok a → ∀ x, P x → P (set x a)) :
    (Field.of name required r set).Keeps P := by
  intro v change hp
  obtain ⟨a, ha, rfl⟩ := exists_of_put hp
  exact h v a ha

namespace Shape
variable {shape : Shape σ} {ending : Option Break} {seen seen' : List String} {x x' y : σ}

/-- Only fields that have not been seen and are named by a member can change the record. -/
theorem ofMembers_keeps (P : σ → Prop) (ms : List (Option String × Outline))
    (hP : ∀ f ∈ shape.fields, f.name ∉ seen → some f.name ∈ ms.map Prod.fst → f.Keeps P)
    (h : shape.ofMembers ending ms seen x = .ok y) (hx : P x) : P y := by
  induction ms generalizing seen x with
  | nil =>
    obtain ⟨-, -, rfl⟩ := ofMembers_nil_ok.mp h
    exact hx
  | cons m ms ih =>
    obtain ⟨seen', x', ht, hms⟩ := ofMembers_cons_ok.mp h
    cases ht with
    | field k f v change hf hs hp =>
      obtain ⟨hmem, rfl⟩ := name_of_find? hf
      have hkeeps := hP f hmem hs (by simp)
      refine ih ?_ hms (hkeeps v change hp x hx)
      intro g hg hgs hgm
      exact hP g hg (fun h => hgs (List.mem_cons_of_mem _ h)) (List.mem_cons_of_mem _ hgm)
    | passed k v hf hs hv =>
      exact ih (fun g hg hgs hgm => hP g hg hgs (List.mem_cons_of_mem _ hgm)) hms hx

theorem ofItems_keeps (P : σ → Prop) (fields : List (Field σ)) (items : List Outline)
    (ending : Option Fault) (hP : ∀ f ∈ fields, f.Keeps P)
    (h : ofItems ending fields items x = .ok y) (hx : P x) : P y := by
  fun_induction ofItems ending fields items x with
  | case1 => cases h
  | case2 =>
    cases h
    exact hx
  | case3 => cases h
  | case4 f fs v vs x change hp ih =>
    have hkeeps := hP f List.mem_cons_self
    exact ih (fun g hg => hP g (List.mem_cons_of_mem f hg)) h (hkeeps v change hp x hx)
  | case5 => cases h
  | case6 => cases h
  | case7 => cases h
  | case8 =>
    cases h
    exact hx

theorem read_keeps (P : σ → Prop) (hP : ∀ f ∈ shape.fields, f.Keeps P) (v : Outline)
    (h : shape.read x v = .ok y) (hx : P x) : P y := by
  unfold read at h
  split at h
  · exact ofMembers_keeps P _ (fun f hf _ _ => hP f hf) h hx
  · exact ofItems_keeps P _ _ _ hP h hx
  · cases h

end Shape

/-! ## Order -/

/-- The changes that two fields read may be made in either order. -/
def Field.Commutes (f g : Field σ) : Prop :=
  ∀ v c, f.put v = .ok c → ∀ w d, g.put w = .ok d → ∀ x, c (d x) = d (c x)

instance : Std.Symm (@Field.Commutes σ) :=
  ⟨fun _ _ h w d hd v c hc x => (h v c hc w d hd x).symm⟩

theorem Field.commutes_of {α β : Type} {name name' : String} {required required' : Bool}
    {r : Reading α} {r' : Reading β} {set : σ → α → σ} {set' : σ → β → σ}
    (h : ∀ x a b, set (set' x b) a = set' (set x a) b) :
    (Field.of name required r set).Commutes (Field.of name' required' r' set') := by
  intro v c hc w d hd x
  obtain ⟨a, -, rfl⟩ := exists_of_put hc
  obtain ⟨b, -, rfl⟩ := exists_of_put hd
  exact h x a b

namespace Shape
variable {shape : Shape σ} {ending : Option Break} {seen seen' : List String} {x x' y : σ}

/-- No two fields get in each other's way. -/
def Independent (shape : Shape σ) : Prop :=
  shape.fields.Pairwise Field.Commutes

theorem Independent.commutes (hi : shape.Independent) {f g : Field σ} (hf : f ∈ shape.fields)
    (hg : g ∈ shape.fields) (hne : f.name ≠ g.name) : f.Commutes g := by
  have hfg : f ≠ g := fun h => hne (congrArg Field.name h)
  exact List.Pairwise.forall hi hf hg hfg

/-- It does not matter in which order fields have been seen. -/
theorem ofMembers_congr_seen (ms : List (Option String × Outline))
    (h : ∀ k, k ∈ seen ↔ k ∈ seen') :
    shape.ofMembers ending ms seen x = shape.ofMembers ending ms seen' x := by
  -- reading only ever asks whether a name has been seen
  have hc : ∀ k, seen.contains k = seen'.contains k := by
    intro k
    rw [Bool.eq_iff_iff]
    simpa using h k
  induction ms generalizing seen seen' x with
  | nil =>
    have hcomplete : shape.complete seen = shape.complete seen' := by
      simp only [complete, hc]
    unfold ofMembers
    rw [hcomplete]
  | cons m ms ih =>
    obtain ⟨k, v⟩ := m
    cases k with
    | none => rfl
    | some k =>
      have hmore : ∀ z, shape.ofMembers ending ms (k :: seen) z =
          shape.ofMembers ending ms (k :: seen') z := by
        intro z
        apply ih
        · intro n
          simp only [List.mem_cons, h]
        · intro n
          simp only [List.contains_cons, hc]
      simp only [ofMembers, hc, hmore, ih h hc]

/-- Two members next to each other may change places. -/
theorem Takes.swap (hi : shape.Independent) {m n : Option String × Outline}
    {seen₁ seen₂ : List String} {x₁ x₂ : σ} (hm : shape.Takes seen x m seen₁ x₁)
    (hn : shape.Takes seen₁ x₁ n seen₂ x₂) :
    ∃ seen₁' x₁' seen₂', shape.Takes seen x n seen₁' x₁' ∧
      shape.Takes seen₁' x₁' m seen₂' x₂ ∧ ∀ k, k ∈ seen₂ ↔ k ∈ seen₂' := by
  cases hm with
  | passed k v hf hs hv =>
    cases hn with
    | passed l w hg ht hw =>
      exact ⟨_, _, _, .passed l w hg ht hw, .passed k v hf hs hv, fun _ => Iff.rfl⟩
    | field l g w d hg ht hw =>
      exact ⟨_, _, _, .field l g w d hg ht hw, .passed k v hf hs hv, fun _ => Iff.rfl⟩
  | field k f v c hf hs hp =>
    cases hn with
    | passed l w hg ht hw =>
      exact ⟨_, _, _, .passed l w hg ht hw, .field k f v c hf hs hp, fun _ => Iff.rfl⟩
    | field l g w d hg ht hw =>
      obtain ⟨hfm, hfk⟩ := name_of_find? hf
      obtain ⟨hgm, hgl⟩ := name_of_find? hg
      -- two fields: the second is not the first, since that has been seen
      have hne : k ≠ l := fun h => ht (h ▸ List.mem_cons_self)
      have hcomm : d (c x) = c (d x) :=
        hi.commutes hgm hfm (by rw [hfk, hgl]; exact hne.symm) w d hw v c hp x
      have hk : k ∉ l :: seen := by simp [hne, hs]
      have hl : l ∉ seen := fun h => ht (List.mem_cons_of_mem k h)
      rw [hcomm]
      refine ⟨_, _, _, .field l g w d hg hl hw, .field k f v c hf hk hp, fun n => ?_⟩
      simp only [List.mem_cons]
      exact or_left_comm

/-- **The order of members.** A record that can be read is the same in every order of its members. -/
theorem ofMembers_perm (hi : shape.Independent) {ms ns : List (Option String × Outline)}
    (hp : ms.Perm ns) (h : shape.ofMembers ending ms seen x = .ok y) :
    shape.ofMembers ending ns seen x = .ok y := by
  induction hp generalizing seen x with
  | nil => exact h
  | cons m _ ih =>
    obtain ⟨seen', x', ht, hms⟩ := ofMembers_cons_ok.mp h
    exact ofMembers_cons_ok.mpr ⟨seen', x', ht, ih hms⟩
  | swap m n ms =>
    obtain ⟨seen₁, x₁, hn, h₁⟩ := ofMembers_cons_ok.mp h
    obtain ⟨seen₂, x₂, hm, h₂⟩ := ofMembers_cons_ok.mp h₁
    obtain ⟨seen₁', x₁', seen₂', hm', hn', hseen⟩ := hn.swap hi hm
    rw [ofMembers_congr_seen ms hseen] at h₂
    exact ofMembers_cons_ok.mpr ⟨_, _, hm', ofMembers_cons_ok.mpr ⟨_, _, hn', h₂⟩⟩
  | trans _ _ ih₁ ih₂ => exact ih₂ (ih₁ h)

/-- What a field makes of the record stays, for no other field can change it. -/
theorem ofMembers_field (hi : shape.Independent) {P : σ → Prop} {k : String} {v : Outline}
    {f : Field σ} {ms : List (Option String × Outline)} (hm : (some k, v) ∈ ms)
    (hf : shape.fields.find? (fun g => g.name == k) = some f)
    (h : shape.ofMembers ending ms seen x = .ok y)
    (hmake : ∀ change, f.put v = .ok change → ∀ z, P (change z))
    (hkeep : ∀ g ∈ shape.fields, g.name ≠ k → g.Keeps P) : P y := by
  -- the member may as well stand in front
  obtain ⟨before, after, rfl⟩ := List.append_of_mem hm
  have hfront := ofMembers_perm hi List.perm_middle h
  obtain ⟨seen', x', ht, hrest⟩ := ofMembers_cons_ok.mp hfront
  cases ht with
  | passed k v hnone _ _ =>
    rw [hf] at hnone
    cases hnone
  | field k g v change hg _ hp =>
    rw [hf] at hg
    cases hg
    refine ofMembers_keeps P _ ?_ hrest (hmake change hp x)
    intro g hg hseen _
    exact hkeep g hg fun hk => hseen (by rw [hk]; exact List.mem_cons_self)

/-! ## Other members -/

/-- A member with a name, which is that of no field, and with any value that is JSON. -/
def Foreign (shape : Shape σ) (m : Option String × Outline) : Prop :=
  ∃ k, m.1 = some k ∧ (∀ f ∈ shape.fields, f.name ≠ k) ∧ m.2.IsWhole

theorem find?_eq_none {k : String} (h : ∀ f ∈ shape.fields, f.name ≠ k) :
    shape.fields.find? (fun g => g.name == k) = none := by
  rw [List.find?_eq_none]
  intro f hf
  simpa using h f hf

theorem ofMembers_foreign_append (hs : shape.strict = false)
    (extra ms : List (Option String × Outline)) (he : ∀ m ∈ extra, shape.Foreign m) :
    shape.ofMembers ending (extra ++ ms) seen x = shape.ofMembers ending ms seen x := by
  induction extra with
  | nil => rfl
  | cons m extra ih =>
    obtain ⟨⟨-, v⟩, k, rfl, hk, hv⟩ := m, he m List.mem_cons_self
    have ht : shape.Takes seen x (some k, v) seen x := .passed k v (find?_eq_none hk) hs hv.pass
    rw [List.cons_append, ofMembers_of_takes ht]
    exact ih fun n hn => he n (List.mem_cons_of_mem _ hn)

/-- Where a shape is strict, a member of another name is refused wherever it stands. -/
theorem ofMembers_foreign (hs : shape.strict = true) (k : String) (v : Outline)
    (hk : ∀ f ∈ shape.fields, f.name ≠ k) (before after : List (Option String × Outline))
    (h : shape.ofMembers ending (before ++ after) seen x = .ok y) :
    shape.ofMembers ending (before ++ (some k, v) :: after) seen x = .error .unexpected := by
  induction before generalizing seen x with
  | nil => simp only [List.nil_append, ofMembers, find?_eq_none hk, hs, if_true]
  | cons m before ih =>
    obtain ⟨seen', x', ht, hms⟩ := ofMembers_cons_ok.mp h
    rw [List.cons_append, ofMembers_of_takes ht]
    exact ih hms

/-- `w` says of the fields what `v` says: it has the members of `v` in some order, and others that
belong to no field. Whatever is no object stays as it is. -/
inductive Widens (shape : Shape σ) : Outline → Outline → Prop where
  | members (ms ns extra : List (Option String × Outline)) (he : ∀ m ∈ extra, shape.Foreign m)
      (hp : ns.Perm (extra ++ ms)) : Widens shape (.object ms none) (.object ns none)
  | refl (v : Outline) : Widens shape v v

theorem read_of_widens (hi : shape.Independent) (hs : shape.strict = false) {v w : Outline}
    (hw : shape.Widens v w) (h : shape.read x v = .ok y) : shape.read x w = .ok y := by
  cases hw with
  | refl => exact h
  | members ms ns extra he hp =>
    have hextra : shape.ofMembers none (extra ++ ms) [] x = .ok y :=
      (ofMembers_foreign_append hs extra ms he).trans h
    exact ofMembers_perm hi hp.symm hextra

end Shape

end LexicalRules.Json
