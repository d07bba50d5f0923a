import Mathlib.Data.List.Nodup
import Mathlib.Data.List.Pairwise
import Clickstream.Proofs.Query.Calls
import Clickstream.Proofs.Query.Merge

/-!
# Nodes of a renderer

A renderer knows a parameter by the identity of its node and does not keep the node itself.  Nodes
that there are at one time have different identities, but the identity of a node that is gone may
come back with another one, which is then taken for it (`Renderer.bind_of_id_eq`).  So what the
names hold is right as long as the nodes of earlier calls are still there in later ones
(`Use.AreKept`).  What a name holds may then be replaced, but only by an equal value, and every
parameter finds its own value under its name, or an equal one (`Renderer.Sound`).
-/

namespace Clickstream

/-! ## Nodes -/

/-- Parameters of which two with one identity are the same. -/
def KnownById (ps : List Param) : Prop :=
  ∀ p ∈ ps, ∀ q ∈ ps, p.id = q.id → p = q

/-- The values of some parameters. -/
def IsValueOf (ps : List Param) (v : Value) : Prop :=
  ∃ p ∈ ps, p.value = v

theorem comparesOn_isValueOf {ps : List Param} (h : ∀ p ∈ ps, p.value.IsProper) :
    Bindings.ComparesOn (IsValueOf ps) where
  symm := by
    rintro _ _ ⟨p, hp, rfl⟩ ⟨q, hq, rfl⟩
    exact Value.same_symm (h p hp) (h q hq)
  trans := by
    rintro _ _ _ ⟨p, hp, rfl⟩ - -
    exact Value.same_trans (h p hp)

/-- A call, and the nodes that there are while it is made. -/
structure Use where
  call : Call
  nodes : List Param

namespace Use

/-- The call comes to nodes that there are, and no two of these have one identity. -/
structure IsLive (use : Use) : Prop where
  mem : ∀ p ∈ use.call.params, p ∈ use.nodes
  known : KnownById use.nodes

/-- The nodes that some calls come to. -/
def params (uses : List Use) : List Param :=
  (uses.map Use.call).flatMap Call.params

theorem mem_params {uses : List Use} {p : Param} :
    p ∈ params uses ↔ ∃ use ∈ uses, p ∈ use.call.params := by
  simp only [params, List.mem_flatMap, List.mem_map, exists_exists_and_eq_and]

/-- The nodes of every call are there in the later ones. -/
structure AreKept (uses : List Use) : Prop where
  live : ∀ use ∈ uses, use.IsLive
  stay : uses.Pairwise fun earlier later => ∀ p ∈ earlier.call.params, p ∈ later.nodes

/-- Nodes that are kept have different identities, also those of different calls. -/
theorem AreKept.known {uses : List Use} (h : AreKept uses) : KnownById (params uses) := by
  have hlater : uses.Pairwise fun s t =>
      ∀ p ∈ s.call.params, ∀ q ∈ t.call.params, p.id = q.id → p = q := by
    refine h.stay.imp_of_mem fun {s t} _ ht hstay p hp q hq => ?_
    exact (h.live t ht).known p (hstay p hp) q ((h.live t ht).mem q hq)
  have hpair := List.Pairwise.forall_of_forall_of_flip (fun s hs p hp q hq =>
    (h.live s hs).known p ((h.live s hs).mem p hp) q ((h.live s hs).mem q hq)) hlater
    (hlater.imp fun hst p hp q hq hid => (hst q hq p hp hid.symm).symm)
  intro p hp q hq
  obtain ⟨s, hs, hp⟩ := mem_params.mp hp
  obtain ⟨t, ht, hq⟩ := mem_params.mp hq
  exact hpair hs ht p hp q hq

/-- Nodes that are there all the time are kept. -/
theorem areKept_of_throughout {calls : List Call} {nodes : List Param} (hknown : KnownById nodes)
    (hmem : ∀ call ∈ calls, ∀ p ∈ call.params, p ∈ nodes) :
    AreKept (calls.map fun call => ⟨call, nodes⟩) where
  live := List.forall_mem_map.mpr fun call hcall => ⟨hmem call hcall, hknown⟩
  stay := List.pairwise_map.mpr
    (List.pairwise_of_forall_mem_list fun call hcall _ _ => hmem call hcall)

end Use

namespace Renderer

variable {r r' : Renderer} {p q t : Param} {ps : List Param} {name other : String} {counter : Nat}

/-- A node with the identity of one that is bound is taken for it. -/
theorem bind_of_id_eq (h : r.bind p = .ok r') (hid : q.id = p.id) : r'.bind q = .ok r' := by
  obtain ⟨name, hname⟩ := exists_name_of_bind h
  rw [bind, hid, hname]

/-! ## What the names hold -/

/-- What holds of a renderer that has bound some of the given parameters. -/
structure Sound (ps : List Param) (r : Renderer) : Prop where
  /-- The name of a parameter holds its value, or one that equals it; a NaN equals nothing, so it
  is held itself. -/
  holds : ∀ p ∈ ps, ∀ name, r.nameOf? p.id = some name → ∃ held,
    r.params.get? name = some held ∧ (held = p.value ∨ (held == p.value) = true)
  /-- A parameter that brings along a name is bound under it. -/
  own : ∀ p ∈ ps, ∀ name own, r.nameOf? p.id = some name → p.name = some own → name = own
  /-- Two parameters without a name have different ones. -/
  apart : ∀ p ∈ ps, ∀ q ∈ ps, p.name = none → q.name = none → ∀ name,
    r.nameOf? p.id = some name → r.nameOf? q.id = some name → p = q
  /-- What a name holds is the value of a parameter. -/
  origin : ∀ name held, r.params.get? name = some held → IsValueOf ps held

theorem start_sound (ps : List Param) (stem : String) : Sound ps (start stem) where
  holds := nofun
  own := nofun
  apart := nofun
  origin := nofun

theorem get?_enter (r : Renderer) (p : Param) (name other : String) (counter : Nat) :
    (r.enter p name counter).params.get? other =
      if name = other then some p.value else r.params.get? other :=
  Bindings.get?_set _ _ _ _

namespace Sound

section

variable (h : Sound ps r) (hknown : KnownById ps) (hp : p ∈ ps) (hnames : r.Names p name counter)

include h hknown hp hnames

/-- A name that is given holds the value of the parameter, and what it held before is equal. -/
theorem holds_enter (hvalues : Bindings.ComparesOn (IsValueOf ps)) (hq : q ∈ ps)
    (hother : (r.enter p name counter).nameOf? q.id = some other) :
    ∃ held, (r.enter p name counter).params.get? other = some held ∧
      (held = q.value ∨ (held == q.value) = true) := by
  rw [nameOf?_enter] at hother
  rw [get?_enter]
  split at hother
  · next hid =>
    cases hother
    exact ⟨p.value, if_pos rfl, .inl (congrArg Param.value (hknown p hp q hq hid.symm))⟩
  · obtain ⟨held, hheld, hsame⟩ := h.holds q hq other hother
    split
    · next hname =>
      subst hname
      refine ⟨p.value, rfl, .inr ?_⟩
      -- The old value gives way to an equal one, so both equal that of the other parameter.
      have hback := hvalues.symm held p.value (h.origin name held hheld) ⟨p, hp, rfl⟩
        (hnames.held hheld)
      rcases hsame with rfl | hsame
      · exact hback
      · exact hvalues.trans _ _ _ ⟨p, hp, rfl⟩ (h.origin name held hheld) ⟨q, hq, rfl⟩ hback hsame
    · exact ⟨held, hheld, hsame⟩

theorem own_enter {own : String} (hq : q ∈ ps)
    (hother : (r.enter p name counter).nameOf? q.id = some other) (hown : q.name = some own) :
    other = own := by
  rw [nameOf?_enter] at hother
  split at hother
  · next hid =>
    cases hother
    rw [← hknown p hp q hq hid.symm] at hown
    exact hnames.own_eq hown
  · exact h.own q hq other own hother hown

/-- A name that is given to a parameter without one is not that of another parameter. -/
theorem eq_of_given (hname : p.name = none) (hq : q ∈ ps)
    (hq' : (r.enter p name counter).nameOf? q.id = some name) : p = q := by
  rw [nameOf?_enter] at hq'
  split at hq'
  · next hid => exact hknown p hp q hq hid.symm
  · obtain ⟨held, hheld, -⟩ := h.holds q hq name hq'
    exact absurd hheld (hnames.get?_ne_some hname held)

theorem apart_enter (hq : q ∈ ps) (ht : t ∈ ps) (hqname : q.name = none) (htname : t.name = none)
    (hq' : (r.enter p name counter).nameOf? q.id = some other)
    (ht' : (r.enter p name counter).nameOf? t.id = some other) : q = t := by
  have hqgiven := hq'
  have htgiven := ht'
  rw [nameOf?_enter] at hqgiven htgiven
  split at hqgiven
  · next hid =>
    cases hqgiven
    obtain rfl := hknown p hp q hq hid.symm
    exact h.eq_of_given hknown hp hnames hqname ht ht'
  · split at htgiven
    · next hid =>
      cases htgiven
      obtain rfl := hknown p hp t ht hid.symm
      exact (h.eq_of_given hknown hp hnames htname hq hq').symm
    · exact h.apart q hq t ht hqname htname other hqgiven htgiven

theorem enter (hvalues : Bindings.ComparesOn (IsValueOf ps)) :
    Sound ps (r.enter p name counter) where
  holds _ hq _ hother := h.holds_enter hknown hp hnames hvalues hq hother
  own _ hq _ _ hother hown := h.own_enter hknown hp hnames hq hother hown
  apart _ hq _ ht hqname htname _ hq' ht' :=
    h.apart_enter hknown hp hnames hq ht hqname htname hq' ht'
  origin other held hheld := by
    rw [get?_enter] at hheld
    split at hheld
    · exact ⟨p, hp, Option.some.inj hheld⟩
    · exact h.origin other held hheld

end

theorem bind (h : Sound ps r) (hknown : KnownById ps)
    (hvalues : Bindings.ComparesOn (IsValueOf ps)) (hp : p ∈ ps) (hstep : r.bind p = .ok r') :
    Sound ps r' := by
  rcases r.bind_cases p with ⟨-, hr⟩ | ⟨-, name, counter, hnames, hr⟩ | ⟨name, -, hr⟩
  · rw [hr] at hstep
    cases hstep
    exact h
  · rw [hr] at hstep
    cases hstep
    exact h.enter hknown hp hnames hvalues
  · rw [hr] at hstep
    cases hstep

end Sound

theorem sound_after {stem : String} {uses : List Use} (hkept : Use.AreKept uses)
    (hvalues : Bindings.ComparesOn (IsValueOf (Use.params uses))) :
    Sound (Use.params uses) ((start stem).after (uses.map Use.call)) :=
  after_induction (fun _ _ _ hp hr hstep => hr.bind hkept.known hvalues hp hstep)
    (start_sound _ stem)

/-! ## All calls -/

/-- All calls of one renderer, failed ones included.  A parameter without a name gets the first
generated one after the counter that is free, in whatever state.  Names that are given stay, so the
texts of all calls are written with the names of the last state, and a call fails if it comes to a
parameter that is not bound and whose own name holds another value, and for no other reason.  After
every call the names hold what they have to (`Sound`) if the nodes of the calls are kept until
then. -/
theorem calls_keep_names (stem : String) (uses : List Use) :
    (∀ (r : Renderer) (p : Param), r.nameOf? p.id = none → p.name = none →
      ∃ n, r.counter < n ∧ (∀ m, r.counter < m → m < n → r.generated m ∈ r.params.names) ∧
        r.generated n ∉ r.params.names ∧ r.bind p = .ok (r.enter p (r.generated n) n)) ∧
    ∀ before rest, uses = before ++ rest →
      (Use.AreKept before → Bindings.ComparesOn (IsValueOf (Use.params before)) →
        Sound (Use.params before) ((start stem).after (before.map Use.call))) ∧
      (∀ id name, ((start stem).after (before.map Use.call)).nameOf? id = some name →
        ((start stem).after (uses.map Use.call)).nameOf? id = some name) ∧
      ∀ use later, rest = use :: later →
        Answers ((start stem).after (before.map Use.call))
          ((start stem).after (uses.map Use.call)) use.call := by
  refine ⟨?_, ?_⟩
  · intro r p hunbound hname
    obtain ⟨hlt, hfree, hbetween⟩ := r.nextNumber_spec
    refine ⟨r.nextNumber, hlt, hbetween, hfree, ?_⟩
    rw [bind, hunbound, hname]
    rfl
  · rintro before rest rfl
    rw [List.map_append]
    refine ⟨sound_after, ?_, ?_⟩
    · intro id name hname
      rw [after_append]
      exact keeps_after hname _
    · rintro use later rfl
      rw [after_append]
      exact answers_after _ use.call _

/-- A number without a name, and a truth value that takes the second generated name. -/
def first : Param := ⟨.given 0, .int 1, none⟩

def second : Param := ⟨.given 1, .bool true, some "p2"⟩

/-- A text without a name, and a truth value that equals the number and brings along its name. -/
def third : Param := ⟨.given 2, .text "x", none⟩

def fourth : Param := ⟨.given 3, .bool true, some "p1"⟩

/-- A text that is bound by a call which fails, because the number behind it clashes. -/
def fifth : Param := ⟨.given 4, .text "y", none⟩

def sixth : Param := ⟨.given 5, .int 2, some "p2"⟩

/-- Names that are taken before and after they are generated, and a call that fails; the nodes are
there from the beginning. -/
def takenNames : List Use :=
  [.whole (.compare (.param first) .eq (.param second)),
    .clause (.all [.param third, .param fourth]),
    .whole (.call "coalesce" [.param fifth, .param sixth]),
    .whole (.any [.param first, .param fifth])].map fun call =>
  ⟨call, [first, second, third, fourth, fifth, sixth]⟩

theorem takenNames_areKept : Use.AreKept takenNames := by
  refine Use.areKept_of_throughout ?_ ?_
  · exact fun p hp q hq hid => List.inj_on_of_nodup_map (f := Param.id) (by decide) hp hq hid
  · simp [Call.params, Expr.params, paramsOfAll]

theorem takenNames_comparesOn : Bindings.ComparesOn (IsValueOf (Use.params takenNames)) := by
  refine comparesOn_isValueOf ?_
  have hleaf : ∀ p ∈ Use.params takenNames, p.value.isLeaf = true := by decide
  exact fun p hp => .leaf (hleaf p hp)

/-- The names hold what they have to after the calls, and the failed call has given a name. -/
theorem calls_keep_names_takenNames :
    Use.AreKept takenNames ∧ Bindings.ComparesOn (IsValueOf (Use.params takenNames)) ∧
      Sound (Use.params takenNames) ((start "p").after (takenNames.map Use.call)) ∧
      (((start "p").after ((takenNames.take 2).map Use.call)).answer
        (.whole (.call "coalesce" [.param fifth, .param sixth]))).1 = .error (.conflict "p2") ∧
      ((start "p").after (takenNames.map Use.call)).nameOf? fifth.id = some "p4" := by
  obtain ⟨-, hcalls⟩ := calls_keep_names "p" takenNames
  obtain ⟨hsound, -, -⟩ := hcalls takenNames [] (List.append_nil _).symm
  obtain ⟨-, -, hanswers⟩ := hcalls (takenNames.take 2) (takenNames.drop 2) rfl
  have hclash : ((start "p").after ((takenNames.take 2).map Use.call)).ComesToClash
      [fifth, sixth] "p2" := by
    refine ⟨[fifth], sixth, [], rfl, by decide +kernel, by decide +kernel, rfl, .bool true, ?_, ?_⟩
    · rfl
    · decide +kernel
  exact ⟨takenNames_areKept, takenNames_comparesOn,
    hsound takenNames_areKept takenNames_comparesOn,
    ((hanswers _ _ rfl).fails _).mpr ⟨"p2", hclash, rfl⟩, by decide +kernel⟩

/-! ## Nodes that are gone, and values that differ from themselves -/

/-- A node without a name, and another one at its identity. -/
def gone : Param := ⟨.given 0, .text "x", none⟩

def successor : Param := ⟨.given 0, .text "y", none⟩

/-- Each of the two is there as long as it is rendered. -/
def inTurn : List Use :=
  [⟨.whole (.param gone), [gone]⟩, ⟨.whole (.param successor), [successor]⟩]

theorem isLive_alone (p : Param) : Use.IsLive ⟨.whole (.param p), [p]⟩ where
  mem _ hp := hp
  known _ hq _ ht _ := (List.mem_singleton.mp hq).trans (List.mem_singleton.mp ht).symm

/-- A NaN under a name, and a second one under the same. -/
def unequal : Param := ⟨.given 0, .real .nan, some "n"⟩

def unequalAgain : Param := ⟨.given 1, .real .nan, some "n"⟩

/-- Both are there all the time. -/
def unequals : List Use :=
  [.whole (.param unequal), .whole (.param unequalAgain)].map fun call =>
    ⟨call, [unequal, unequalAgain]⟩

/-- Nodes without a name share one, and the value of the second is not bound, if it takes over the
identity of the first.  A NaN is held by its name, but does not equal itself, and a second one
clashes with it although all nodes are kept. -/
theorem names_of_goneAndUnequal :
    ((∀ use ∈ inTurn, use.IsLive) ∧ gone.name = none ∧ successor.name = none ∧
      (gone.value == successor.value) = false ∧
      ((start "p").answer (.whole (.param gone))).1 = .ok "$p1" ∧
      (((start "p").after [.whole (.param gone)]).answer (.whole (.param successor))).1 =
        .ok "$p1" ∧
      ((start "p").after (inTurn.map Use.call)).params = [("p1", gone.value)]) ∧
    Use.AreKept unequals ∧ Bindings.ComparesOn (IsValueOf (Use.params unequals)) ∧
      ((start "p").answer (.whole (.param unequal))).1 = .ok "$n" ∧
      ((start "p").after [.whole (.param unequal)]).params = [("n", unequal.value)] ∧
      (unequal.value == unequal.value) = false ∧
      (((start "p").after [.whole (.param unequal)]).answer (.whole (.param unequalAgain))).1 =
        .error (.conflict "n") := by
  have hknown : KnownById [unequal, unequalAgain] :=
    fun p hp q hq hid => List.inj_on_of_nodup_map (f := Param.id) (by decide) hp hq hid
  have hleaf : ∀ p ∈ Use.params unequals, p.value.isLeaf = true := by decide
  have hlive : ∀ use ∈ inTurn, use.IsLive :=
    List.forall_mem_cons.mpr ⟨isLive_alone gone, List.forall_mem_singleton.mpr (isLive_alone _)⟩
  exact ⟨⟨hlive, rfl, rfl, by decide +kernel, rfl, rfl, rfl⟩,
    Use.areKept_of_throughout hknown (by simp [Call.params, Expr.params]),
    comparesOn_isValueOf fun p hp => .leaf (hleaf p hp), rfl, rfl, Value.same_nan _, rfl⟩

end Renderer

end Clickstream
