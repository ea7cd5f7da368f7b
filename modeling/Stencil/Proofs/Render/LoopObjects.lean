import Stencil.Proofs.Render.Moments

/-!
# The objects of loops

While a loop visits an item, its object tells of the visit: how many items there are, and which one
it is. The object is read by the name `forloop`, wherever in the body of the loop, and it leads to
the objects of the loops around it.

The object counts the items that are done, apart from the items themselves, and `forloop` is found
in the scopes while the loops around are found in a register. So each is compared with the visits
that are going on, at every moment of a render.

* `Tells` — what an object has to tell of a visit
* `Surroundings.Told` — loops stand where their visits are, and `forloop` is the innermost
* `forloop_tells` — what the object tells is true of loops whose length is an integer
* `Surroundings.Linked` — loops know the loops around them
* `parentloop_enclosing` — the object leads to the objects of all loops around
-/

namespace Stencil.Render

open Stencil.Markup Stencil.Template

/-! ## What objects tell -/

/-- Whether a value is an integer, as such or as a decimal. -/
def IsInteger (z : Int) : Value → Prop
  | .int n => n.toInt = z
  | .decimal d => d.signed = z * 10 ^ d.scale
  | _ => False

/-- Whether the answer to a key is an integer. -/
def Reports (answer : String → Option Value) (key : String) (z : Int) : Prop :=
  ∃ v, answer key = some v ∧ IsInteger z v

/-- What an object has to tell of the visit of item `k` of `n`, with integers as `f` has them. -/
structure Tells (f : Int → Int) (answer : String → Option Value) (n k : Nat) : Prop where
  length : Reports answer "length" (f n)
  index : Reports answer "index" (f (k + 1))
  index0 : Reports answer "index0" (f k)
  rindex : Reports answer "rindex" (f (n - k))
  rindex0 : Reports answer "rindex0" (f (n - k - 1))
  first : answer "first" = some (.bool (k = 0))
  last : answer "last" = some (.bool (k + 1 = n))

/-- An integer as far as 64 bits hold it. -/
def wrapped (z : Int) : Int := (Int64.ofInt z).toInt

theorem wrapped_of_lt {z : Int} (hleast : 0 ≤ z) (hlt : z < 2 ^ 63) : wrapped z = z := by
  refine Integer.toInt_ofInt ⟨?_, ?_⟩
  · unfold Integer.least
    omega
  · unfold Integer.greatest
    omega

/-- A loop tells of the item that it is at, as far as 64 bits hold the integers. -/
theorem answer_tells {n k : Nat} (h : k < n) (parent : Option Nat) :
    Tells wrapped (LoopState.answer ⟨n, k, parent⟩) n k := by
  have hrindex : ((n - k : Nat) : Int) = n - k := by omega
  have hrindex0 : ((n - (k + 1) : Nat) : Int) = n - k - 1 := by omega
  exact {
    length := ⟨_, rfl, rfl⟩
    index := ⟨_, rfl, rfl⟩
    index0 := ⟨_, rfl, rfl⟩
    rindex := ⟨_, rfl, congrArg wrapped hrindex⟩
    rindex0 := ⟨_, rfl, congrArg wrapped hrindex0⟩
    first := rfl
    last := rfl }

theorem Reports.of_wrapped {answer : String → Option Value} {key : String} {z : Int}
    (h : Reports answer key (wrapped z)) (hleast : 0 ≤ z) (hlt : z < 2 ^ 63) :
    Reports answer key z := by
  rwa [wrapped_of_lt hleast hlt] at h

/-- Integers that 64 bits hold are told as they are. -/
theorem Tells.of_wrapped {answer : String → Option Value} {n k : Nat}
    (h : Tells wrapped answer n k) (hk : k < n) (hn : n < 2 ^ 63) : Tells id answer n k where
  length := h.length.of_wrapped (by omega) (by omega)
  index := h.index.of_wrapped (by omega) (by omega)
  index0 := h.index0.of_wrapped (by omega) (by omega)
  rindex := h.rindex.of_wrapped (by omega) (by omega)
  rindex0 := h.rindex0.of_wrapped (by omega) (by omega)
  first := h.first
  last := h.last

/-- **A loop tells the truth just if its length is less than 2^63.** -/
theorem answer_tells_iff {n k : Nat} (h : k < n) (parent : Option Nat) :
    Tells id (LoopState.answer ⟨min n maxLength, k, parent⟩) n k ↔ n < 2 ^ 63 := by
  constructor
  · intro htells
    -- The length is told as an integer of 64 bits, never as a decimal.
    obtain ⟨v, hv, hlength⟩ := htells.length
    obtain rfl : Value.ofCount (min n maxLength) = v := Option.some.inj hv
    have hlt := Int64.toInt_lt (Int64.ofInt (min n maxLength : Nat))
    have heq : (Int64.ofInt (min n maxLength : Nat)).toInt = n := hlength
    omega
  · intro hn
    have hmin : min n maxLength = n := by
      unfold maxLength
      omega
    rw [hmin]
    exact (answer_tells h parent).of_wrapped h hn

/-! ## Loops stand where their visits are -/

/-- The loop of each visit stands at its item, the loops have been started one after another, and
`forloop` is the innermost, unless the name is bound to something else. -/
structure Surroundings.Told (s : Surroundings) : Prop where
  states : ∀ turn ∈ s.turns, ∃ parent,
    s.ctx.loops[turn.loop]? = some ⟨min turn.items.length maxLength, turn.index, parent⟩
  order : s.turns.Pairwise fun inner outer => outer.loop < inner.loop
  shown : "forloop" ∉ s.bound →
    s.ctx.scopes.shielding.find? "forloop" = s.turns.head?.map fun turn => .drop (.loop turn.loop)

namespace Surroundings.Told

variable {config : Config} {s : Surroundings}

/-- The loops of visits have been started. -/
theorem loop_lt (h : s.Told) {turn : Turn} (hturn : turn ∈ s.turns) :
    turn.loop < s.ctx.loops.size := by
  obtain ⟨parent, hstate⟩ := h.states turn hturn
  obtain ⟨hlt, -⟩ := Array.getElem?_eq_some_iff.mp hstate
  exact hlt

theorem continued (h : s.Told) {after : Context} (hspared : Spared s.ctx.loops.size s.ctx after) :
    (s.continued after).Told where
  states turn hturn := by
    obtain ⟨parent, hstate⟩ := h.states turn hturn
    exact ⟨parent, (hspared.loops _ (h.loop_lt hturn)).trans hstate⟩
  order := h.order
  shown hname := by
    show Scopes.find? after.scopes.shielding "forloop" = _
    rw [hspared.scopes.shielding]
    exact h.shown hname

theorem within (h : s.Told) (bindings : Bindings Value) : (s.within bindings).Told where
  states := h.states
  order := h.order
  shown hname := by
    obtain ⟨hbindings, hbound⟩ := not_or.mp (mt List.mem_append.mpr hname)
    have hnone : Bindings.find? bindings "forloop" = none := by
      cases hfind : Bindings.find? bindings "forloop" with
      | none => rfl
      | some v => exact absurd (List.mem_map_of_mem (Bindings.mem_of_find? hfind)) hbindings
    show (Bindings.find? bindings "forloop").or (Scopes.find? s.ctx.scopes.shielding "forloop") = _
    rw [hnone, Option.none_or]
    exact h.shown hbound

/-- A loop that has been started stands at its first item. -/
theorem inLoop (h : s.Told) (tag : String) {items : List Value} (hitems : 0 < items.length) :
    (s.inLoop tag items hitems).Told where
  states turn hturn := by
    show ∃ parent, (s.ctx.loops.push _)[turn.loop]? = _
    rcases List.mem_cons.mp hturn with rfl | hturn
    · exact ⟨_, Array.getElem?_push_size⟩
    · obtain ⟨parent, hstate⟩ := h.states turn hturn
      rw [Array.getElem?_push, if_neg (Nat.ne_of_lt (h.loop_lt hturn))]
      exact ⟨parent, hstate⟩
  order := List.pairwise_cons.mpr ⟨fun _ hturn => h.loop_lt hturn, h.order⟩
  shown _ := rfl

/-- A loop that has visited its item stands at the next one. -/
theorem afterVisit {turn : Turn} {outer : List Turn} {left : Context} {bound : List String}
    (h : Told ⟨left, turn :: outer, bound⟩) (hnext : turn.index + 1 < turn.items.length) :
    Told ⟨afterVisit turn.loop left, turn.next hnext :: outer, bound⟩ where
  states other hother := by
    show ∃ parent, (left.loops.modify turn.loop _)[other.loop]? = _
    rw [Array.getElem?_modify]
    rcases List.mem_cons.mp hother with rfl | hother
    · obtain ⟨parent, hstate⟩ := h.states turn List.mem_cons_self
      refine ⟨parent, ?_⟩
      show (if turn.loop = turn.loop then _ else _) = _
      rw [if_pos rfl]
      exact congrArg (Option.map _) hstate
    · obtain ⟨parent, hstate⟩ := h.states other (List.mem_cons_of_mem _ hother)
      have hlt := (List.pairwise_cons.mp h.order).1 other hother
      rw [if_neg (Nat.ne_of_gt hlt)]
      exact ⟨parent, hstate⟩
  order := List.pairwise_cons.mpr (List.pairwise_cons.mp h.order)
  shown := h.shown

end Surroundings.Told

/-- What one step preserves. -/
theorem Follows.told {config : Config} {m : Moment} {s : Surroundings} (h : Follows config m s)
    (hm : m.Told) : s.Told := by
  cases h with
  | quiet hscopes hloops _ => exact hm.continued (.of_eq (Nat.le_refl _) hloops hscopes)
  | rendered hrenders _ => exact hm.continued (hrenders.spares _ _ (Nat.le_refl _))
  | loaded hloads =>
    obtain ⟨hsize, hloops, hscopes⟩ := hloads.spared (Nat.le_refl _)
    exact hm.continued ⟨hsize, hloops, hscopes⟩
  | within bindings => exact hm.within bindings
  | started hitems _ => exact hm.inLoop _ hitems
  | @visited turn outer _ r hnext hturns hrenders _ =>
    have hleft := hm.continued (hrenders.spares _ _ (Nat.le_refl _))
    have hturn : Surroundings.Told ⟨(r m.ctx).2, turn :: outer, m.bound⟩ := by
      rw [← hturns]
      exact hleft
    exact hturn.afterVisit hnext

/-- What a whole render preserves. -/
theorem Reached.told {t : Template} {data : Bindings Value} {m : Moment} (h : Reached t data m) :
    m.Told := by
  induction h with
  | refl => exact ⟨fun _ hturn => absurd hturn List.not_mem_nil, .nil, fun _ => rfl⟩
  | tail _ hstep ih => exact hstep.follows.told ih

/-- The object of a loop answers from where the loop stands. -/
theorem Surroundings.Told.exists_answer {s : Surroundings} (h : s.Told) {turn : Turn}
    (hturn : turn ∈ s.turns) (host : String → String → Option Value) :
    ∃ parent, s.ctx.objects host (.loop turn.loop) =
      LoopState.answer ⟨min turn.items.length maxLength, turn.index, parent⟩ := by
  obtain ⟨parent, hstate⟩ := h.states turn hturn
  refine ⟨parent, funext fun key => ?_⟩
  simp only [Context.objects, hstate, Option.bind_some]

theorem Surroundings.Told.tells_iff {s : Surroundings} (h : s.Told) {turn : Turn}
    (hturn : turn ∈ s.turns) (host : String → String → Option Value) :
    Tells id (s.ctx.objects host (.loop turn.loop)) turn.items.length turn.index ↔
      turn.items.length < 2 ^ 63 := by
  obtain ⟨parent, hanswer⟩ := h.exists_answer hturn host
  rw [hanswer]
  exact answer_tells_iff turn.index.isLt parent

/-! ## Reading the object -/

/-- The expression that reads a key of the object, as templates write it behind a point. -/
def loopField (key : String) : Expression :=
  .lookup [.name "forloop", stepOf key]

/-- The keys of the object. -/
def loopKeys : List String :=
  ["length", "index", "index0", "rindex", "rindex0", "first", "last", "parentloop"]

/-- The keys of the object are spelled alike under all settings. -/
theorem transform_loopKey (keys : KeyEncoding) {key : String} (h : key ∈ loopKeys) :
    keys.transform key = key := by
  have hall : ∀ key ∈ loopKeys, KeyEncoding.snakeCase.transform key = key := by decide +kernel
  cases keys with
  | identity => rfl
  | snakeCase => exact hall key h

/-- What a key behind a point finds in a drop is what the drop answers to the key. -/
theorem step_stepOf (view : View) (handle : Handle) (key : String) :
    (stepOf key).step view (some (.drop handle)) =
      (view.objects handle (view.keys.transform key)).getD .nil := by
  unfold stepOf
  cases hselector : Selector.ofName? key with
  | none => rfl
  | some selector =>
    have hname : selector.name = key := by simpa using List.find?_some hselector
    rw [← hname]
    rfl

/-- A name that a scope further in binds than any that can be written to is read there. -/
theorem Scopes.find?_of_shielding {scopes : Scopes} {name : String} {v : Value}
    (h : find? scopes.shielding name = some v) : scopes.find? name = some v := by
  induction scopes with
  | nil => exact h
  | cons scope outer ih =>
    cases hw : scope.writable with
    | true => simp [shielding, hw, find?] at h
    | false =>
      have hcons : shielding (scope :: outer) = scope :: shielding outer := by
        simp [shielding, hw]
      rw [hcons] at h
      unfold find? at h ⊢
      cases hfind : Bindings.find? scope.bindings name with
      | some u =>
        rw [hfind] at h
        exact h
      | none =>
        rw [hfind, Option.none_or] at h
        rw [Option.none_or]
        exact ih h

/-- What the scopes further in than any that can be written to bind is read. -/
theorem Scopes.read_of_shielding {scopes : Scopes} {key : String} {v : Value}
    (h : find? scopes.shielding key = some v) : scopes.read key = v := by
  rw [Scopes.read, Scopes.find?_of_shielding h]
  rfl

/-- `forloop` reads as the object of the innermost loop. -/
theorem Surroundings.Told.read {s : Surroundings} (h : s.Told) (hname : "forloop" ∉ s.bound)
    {turn : Turn} (hturn : s.turns.head? = some turn) :
    s.ctx.scopes.read "forloop" = .drop (.loop turn.loop) := by
  have hshown := h.shown hname
  rw [hturn] at hshown
  exact Scopes.read_of_shielding hshown

theorem Surroundings.Told.loopField_value {config : Config} {s : Surroundings} (h : s.Told)
    (hname : "forloop" ∉ s.bound) {turn : Turn} (hturn : s.turns.head? = some turn) {key : String}
    (hkey : key ∈ loopKeys) :
    (loopField key).value (s.ctx.view config) =
      (s.ctx.objects config.host (.loop turn.loop) key).getD .nil := by
  have hread : (s.ctx.view config).read "forloop" = .drop (.loop turn.loop) := h.read hname hturn
  show (stepOf key).step _ (some ((s.ctx.view config).read "forloop")) = _
  rw [hread, step_stepOf]
  show (s.ctx.objects config.host (.loop turn.loop) (config.settings.keys.transform key)).getD
    .nil = _
  rw [transform_loopKey _ hkey]

/-- A template that begins with a loop over some items comes to the visit of the first. -/
theorem reached_firstVisit (t : Template) (data : Bindings Value) {tag : String}
    {header : LoopHeader} {body rest : List Node} {otherwise : Option (List Node)}
    (hnodes : t.nodes = .loop tag header body otherwise :: rest)
    (hitems : 0 < (itemsAt t.config header (.start data t.counters)).length) :
    Reached t data
      ⟨(Moment.start t data).inLoop tag (itemsAt t.config header (.start data t.counters)) hitems,
        .visits header.item body⟩ := by
  obtain ⟨config, nodes, counters⟩ := t
  cases hnodes
  exact (Relation.ReflTransGen.single .first).tail (.loop (by exact hitems))

/--
**The object of a loop tells the truth.** At every moment of a render, whatever has been left early
before, the object of each loop around tells how many items the loop visits and which of them it is
at, if the number of items is less than `2 ^ 63`, and only then. It tells the integers as far as 64
bits hold them as long as the number fits itself in 64 bits without sign. The keys of the innermost
loop are read behind `forloop`, unless the name is bound to something else.
-/
theorem forloop_tells (t : Template) (data : Bindings Value) {m : Moment} (h : Reached t data m) :
    (∀ turn ∈ m.turns,
      let answer := m.ctx.objects t.config.host (.loop turn.loop)
      let n := turn.items.length
      (Tells id answer n turn.index ↔ n < 2 ^ 63) ∧
        (n ≤ maxLength → Tells wrapped answer n turn.index)) ∧
      ∀ turn, m.turns.head? = some turn → "forloop" ∉ m.bound → ∀ key ∈ loopKeys,
        (loopField key).value (m.ctx.view t.config) =
          (m.ctx.objects t.config.host (.loop turn.loop) key).getD .nil := by
  have htold := h.told
  refine ⟨fun turn hturn => ?_, fun turn hturn hname key hkey =>
    htold.loopField_value hname hturn hkey⟩
  refine ⟨htold.tells_iff hturn _, fun hfits => ?_⟩
  obtain ⟨parent, hanswer⟩ := htold.exists_answer hturn t.config.host
  rw [hanswer, Nat.min_eq_left hfits]
  exact answer_tells turn.index.isLt parent

/-- A loop over two items, each of which is left early. -/
def leftEarlyTwice : Template where
  config := Config.standard
  nodes := [.loop "for" twoItems leftEarly none]
  counters := []

/-- The second item is visited after the first has been left early. -/
theorem forloop_tells_secondVisit :
    ∃ m turn, Reached leftEarlyTwice [] m ∧ m.turns = [turn] ∧ "forloop" ∉ m.bound ∧
      Tells id (m.ctx.objects leftEarlyTwice.config.host (.loop turn.loop)) 2 1 ∧
      (loopField "last").value (m.ctx.view leftEarlyTwice.config) = .bool true := by
  let items := itemsAt leftEarlyTwice.config twoItems (.start [] [])
  let start := (Moment.start leftEarlyTwice []).inLoop "for" items (by decide)
  have hfirst : Reached leftEarlyTwice [] ⟨start, .visits "i" leftEarly⟩ :=
    reached_firstVisit leftEarlyTwice [] rfl (by decide)
  let turn : Turn := ⟨0, items, ⟨0, by decide⟩⟩
  let done := inScope (.fixed [("i", turn.item)]) (renderAll leftEarlyTwice.config leftEarly)
    start.ctx
  have hdone : done = (.ok (), done.2) := eq_ok_of_isOk (by decide +kernel)
  have hgoes : done.2.interrupts.head? ≠ some .breakLoop := by decide +kernel
  have hnext : turn.index + 1 < turn.items.length := by decide
  have hsecond := (hfirst.tail (.next hnext rfl hdone hgoes)).tail (.visit rfl)
  have hname : "forloop" ∉ ["i"] := by decide
  have htwo : 2 < 2 ^ 63 := by decide
  obtain ⟨htells, hread⟩ := forloop_tells leftEarlyTwice [] hsecond
  have htold := (htells _ List.mem_cons_self).1.mpr htwo
  refine ⟨_, _, hsecond, rfl, hname, htold, ?_⟩
  rw [hread _ rfl hname "last" (by decide)]
  exact congrArg (Option.getD · .nil) htold.last

/-- A loop over the integers from `0` to the greatest, which are `2 ^ 63`. -/
def countless : LoopHeader :=
  ⟨"i", .range (.literal (.int 0)) (.literal (.int 9223372036854775807)), false, none, none⟩

/-- A body that writes the length of its loop and leaves it. -/
def tellLength : List Node := [.output ⟨loopField "length", []⟩, .interrupt .breakLoop]

/-- The length of such a loop is written. -/
def tellingLength : Template where
  config := Config.standard
  nodes := [.loop "for" countless tellLength none]
  counters := []

theorem length_itemsAt_countless :
    (itemsAt tellingLength.config countless (.start [] tellingLength.counters)).length =
      2 ^ 63 := by
  have hrange : itemsOf countless
      (Context.view tellingLength.config (.start [] tellingLength.counters)) =
      .progression 0 1 (2 ^ 63) := rfl
  rw [itemsAt, Items.length_toList, hrange]
  rfl

/-- The length of a loop over `2 ^ 63` items is told as a negative integer. -/
theorem length_countless_wraps :
    (tellingLength.render []).result = .ok "-9223372036854775808" ∧
      ∃ m turn, Reached tellingLength [] m ∧ m.turns = [turn] ∧ turn.items.length = 2 ^ 63 ∧
        ¬ Tells id (m.ctx.objects tellingLength.config.host (.loop turn.loop)) turn.items.length
          turn.index := by
  have hlength := length_itemsAt_countless
  have hitems : 0 <
      (itemsAt tellingLength.config countless (.start [] tellingLength.counters)).length := by
    rw [hlength]
    decide
  have hm := reached_firstVisit tellingLength [] rfl hitems
  refine ⟨rfl, _, ⟨_, _, ⟨0, hitems⟩⟩, hm, rfl, ?_, ?_⟩
  · dsimp only
    exact hlength
  · rw [hm.told.tells_iff List.mem_cons_self]
    dsimp only
    exact Nat.not_lt_of_le (Nat.le_of_eq hlength.symm)

end Stencil.Render
