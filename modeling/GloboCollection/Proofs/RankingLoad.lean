import GloboCollection.Lib.Lists
import GloboCollection.App.Ranking
import GloboCollection.App.World

/-!
# The score callbacks of the ranking, in any order

Each callback writes the row it was given and no other, and what it writes
comes from its own read and from the copy of the row it was handed. So the
rows after any number of callbacks are a function of which of them have run:
`run_callback` says which function, by induction over the order, and says
with it what the table shows.

Three things follow. The order does not matter, and nothing but the
percentages changes. The percentages themselves do not depend on anything:
the callback divides by the percentage of the copy, which is the 0 the row
was fetched with, so what it writes is the 0 for a quotient that is not
finite. And the table shows the rows only if one of the callbacks got as far
as its write, because that is where the only reload stands.
-/

namespace GloboCollection

open GloboCollection.Lib
open RegisterViewController (profile)
open ResultViewController (stickerScore)
open CollectionViewController (collection1 collection2 collection3)

/-- What the fetch is handed of a document. -/
def UserDoc.data (doc : UserDoc) : Dict := profile doc.nickName doc.email doc.uid

namespace RankingViewController

/-- Everybody who signed up has a row. -/
theorem userOf_profile (nickName email : String) (uid : Uid) :
    userOf (profile nickName email uid) = some ⟨"ranking", nickName, email, 0, uid⟩ := by
  have hemail : Finmap.lookup "email" (profile nickName email uid) =
      some (.string email) := by
    rw [profile, Finmap.lookup_insert_of_ne _ (by decide), Finmap.lookup_insert]
  have hname : Finmap.lookup "nick_name" (profile nickName email uid) =
      some (.string nickName) := by
    rw [profile, Finmap.lookup_insert]
  have huid : Finmap.lookup "uid" (profile nickName email uid) = some (.string uid) := by
    rw [profile, Finmap.lookup_insert_of_ne _ (by decide),
      Finmap.lookup_insert_of_ne _ (by decide), Finmap.lookup_insert]
  rw [userOf, hemail, hname, huid]

/-- The ranking has one row for each document of a sign-up, in the order of
the fetch. -/
theorem usuarios_fetched_users (users : List UserDoc) :
    (fetched (some (users.map UserDoc.data))).usuarios =
      users.map fun doc => ⟨"ranking", doc.nickName, doc.email, 0, doc.uid⟩ := by
  simp only [fetched, loaded, fetchAllUsersFromFirestore, List.nil_append]
  induction users with
  | nil => rfl
  | cons doc users ih =>
      rw [List.map_cons, List.filterMap_cons, UserDoc.data, userOf_profile]
      rw [ih, List.map_cons]

/-! ## The rows after some of the callbacks -/

/-- The row of a user once its callback has run. -/
def rowAfter (read : ScoreRead) (user : User) : User :=
  match read.scores with
  | some scores => { user with porcent := newPorcent scores user }
  | none => user

/-- The rows once the callbacks of `ran` have run. -/
def rowsAfter (users : List User) (reads : Nat → ScoreRead) (ran : List Nat) :
    List User :=
  users.mapIdx fun i user => if i ∈ ran then rowAfter (reads i) user else user

/-- The table shows the rows, or no callback has reloaded it. -/
def Shown (vc : RankingViewController) (reads : Nat → ScoreRead) (ran : List Nat) : Prop :=
  if ∃ i ∈ ran, (reads i).scores.isSome then vc.rendered = vc.usuarios
  else vc.rendered = []

variable {users : List User} {reads : Nat → ScoreRead}

/-- A callback without a list leaves the rows as they are. -/
theorem rowsAfter_concat_of_none {ran : List Nat} {i : Nat}
    (h : (reads i).scores = none) :
    rowsAfter users reads (ran ++ [i]) = rowsAfter users reads ran := by
  refine List.mapIdx_eq_mapIdx_iff.mpr fun j hj => ?_
  by_cases hji : j = i
  · subst hji
    simp [rowAfter, h]
  · simp [hji]

/-- A callback with a list writes its own row. The copy it works on is the
row as fetched, so it does not matter what was written before. -/
theorem rowsAfter_concat_of_some {ran : List Nat} {i : Nat} {user : User}
    {scores : List Entry} (hi : users[i]? = some user)
    (h : (reads i).scores = some scores) :
    rowsAfter users reads (ran ++ [i]) =
      (rowsAfter users reads ran).modify i fun u =>
        { u with porcent := newPorcent scores user } := by
  rw [rowsAfter, rowsAfter, modify_mapIdx]
  refine List.mapIdx_eq_mapIdx_iff.mpr fun j hj => ?_
  by_cases hji : j = i
  · subst hji
    obtain ⟨-, rfl⟩ := List.getElem?_eq_some_iff.mp hi
    simp only [List.mem_append, List.mem_singleton, or_true, if_true]
    by_cases hran : j ∈ ran
    · simp [hran, rowAfter, h]
    · simp [hran, rowAfter, h]
  · simp [hji]

/-- One callback, from the rows and the table of the callbacks before it. -/
theorem callback_rowsAfter {vc : RankingViewController} {ran : List Nat} {i : Nat}
    (hi : i < users.length) (hrows : vc.usuarios = rowsAfter users reads ran)
    (hshown : vc.Shown reads ran) :
    ∃ vc', callback users reads vc i = some vc' ∧
      vc'.usuarios = rowsAfter users reads (ran ++ [i]) ∧
      vc'.Shown reads (ran ++ [i]) := by
  have huser : users[i]? = some users[i] := List.getElem?_eq_getElem hi
  rw [callback, huser]
  simp only [scoreCallback]
  cases hread : (reads i).scores with
  | none =>
      refine ⟨vc, rfl, ?_, ?_⟩
      · rw [rowsAfter_concat_of_none hread]
        exact hrows
      · have hsame : (∃ j ∈ ran ++ [i], (reads j).scores.isSome) ↔
            ∃ j ∈ ran, (reads j).scores.isSome := by
          simp [or_and_right, exists_or, hread]
        rw [Shown, if_congr hsame rfl rfl]
        exact hshown
  | some scores =>
      have hlen : i < vc.usuarios.length := by
        rw [hrows, rowsAfter, List.length_mapIdx]
        exact hi
      have hreload : ∃ j ∈ ran ++ [i], (reads j).scores.isSome :=
        ⟨i, by simp, by rw [hread]; rfl⟩
      refine ⟨_, if_pos hlen, ?_, ?_⟩
      · rw [rowsAfter_concat_of_some huser hread, ← hrows]
      · rw [Shown, if_pos hreload]

/-- Any callbacks of rows that exist can run in any order; the rows and the
table afterwards are those of the callbacks that ran. -/
theorem run_callback (reads : Nat → ScoreRead) (order : List Nat)
    (horder : ∀ i ∈ order, i < users.length) :
    ∃ vc, run (callback users reads) ⟨users, []⟩ order = some vc ∧
      vc.usuarios = rowsAfter users reads order ∧ vc.Shown reads order := by
  induction order using List.reverseRecOn with
  | nil =>
      refine ⟨⟨users, []⟩, rfl, ?_, ?_⟩
      · exact List.ext_getElem? fun j => by simp [rowsAfter]
      · simp [Shown]
  | append_singleton order i ih =>
      obtain ⟨vc, hrun, hrows, hshown⟩ := ih fun j hj => horder j (by simp [hj])
      obtain ⟨vc', hstep, hrows', hshown'⟩ :=
        callback_rowsAfter (horder i (by simp)) hrows hshown
      exact ⟨vc', run_concat_some.mpr ⟨vc, hrun, hstep⟩, hrows', hshown'⟩

/-! ## The whole load -/

theorem fetched_eq (documents : Option (List Dict)) :
    fetched documents = ⟨(fetched documents).usuarios, []⟩ := by
  cases documents <;> rfl

/-- A row is fetched with the percentage 0. -/
theorem porcent_fetched {documents : Option (List Dict)} {user : User}
    (h : user ∈ (fetched documents).usuarios) : user.porcent = 0 := by
  cases documents with
  | none => cases h
  | some documents =>
      simp only [fetched, loaded, fetchAllUsersFromFirestore, List.nil_append] at h
      obtain ⟨data, -, hdata⟩ := List.mem_filterMap.mp h
      rw [userOf] at hdata
      split at hdata
      · rw [← Option.some.inj hdata]
      · cases hdata

/-- What a callback writes for a list into a row as it was fetched. -/
def porcentOf (scores : List Entry) : Int :=
  match percentage (totalScore scores) 0 with
  | some q => truncate q
  | none => 0

theorem newPorcent_fetched {documents : Option (List Dict)} {user : User}
    (h : user ∈ (fetched documents).usuarios) (scores : List Entry) :
    newPorcent scores user = porcentOf scores := by
  rw [newPorcent, porcent_fetched h]
  rfl

/-- The divisor is 0, so no score makes a difference. -/
theorem porcentOf_eq_zero (scores : List Entry) : porcentOf scores = 0 := by
  rw [porcentOf, percentage, if_pos rfl]

/-- A fetched row after its callback: the percentage is that of its own list,
the rest is as it was. -/
theorem rowAfter_fetched {documents : Option (List Dict)} {user : User}
    (h : user ∈ (fetched documents).usuarios) (read : ScoreRead) :
    rowAfter read user =
      { user with porcent := (read.scores.map porcentOf).getD user.porcent } := by
  rw [rowAfter]
  cases read.scores with
  | none => rfl
  | some scores => simp only [newPorcent_fetched h, Option.map_some, Option.getD_some]

section

variable {documents : Option (List Dict)} {order : List Nat}

theorem mem_order_iff (horder : order.Perm (List.range (fetched documents).usuarios.length))
    {i : Nat} : i ∈ order ↔ i < (fetched documents).usuarios.length := by
  rw [horder.mem_iff, List.mem_range]

/-- Once all callbacks have run, each row is what its own callback makes of
it. -/
theorem load_rows (reads : Nat → ScoreRead)
    (horder : order.Perm (List.range (fetched documents).usuarios.length)) :
    ∃ vc, load documents reads order = some vc ∧
      vc.usuarios = (fetched documents).usuarios.mapIdx (fun i => rowAfter (reads i)) ∧
      vc.Shown reads order := by
  obtain ⟨vc, hrun, hrows, hshown⟩ := run_callback reads order
    fun i hi => (mem_order_iff horder).mp hi
  rw [← fetched_eq] at hrun
  refine ⟨vc, hrun, ?_, hshown⟩
  rw [hrows]
  refine List.mapIdx_eq_mapIdx_iff.mpr fun i hi => ?_
  rw [if_pos ((mem_order_iff horder).mpr hi)]

/-- The rows of two orders are the same, no callback writes beside the array,
and the only thing that differs from the fetch is the percentage of a row
whose document was read, which is a function of that document. -/
theorem load_order_independent {order' : List Nat}
    (horder : order.Perm (List.range (fetched documents).usuarios.length))
    (horder' : order'.Perm (List.range (fetched documents).usuarios.length)) :
    ∃ vc vc', load documents reads order = some vc ∧
      load documents reads order' = some vc' ∧
      vc.usuarios = vc'.usuarios ∧
      vc.usuarios.length = (fetched documents).usuarios.length ∧
      ∀ (i : Nat) (user : User), (fetched documents).usuarios[i]? = some user →
        vc.usuarios[i]? = some { user with
          porcent := ((reads i).scores.map porcentOf).getD user.porcent } := by
  obtain ⟨vc, hload, hrows, -⟩ := load_rows reads horder
  obtain ⟨vc', hload', hrows', -⟩ := load_rows reads horder'
  refine ⟨vc, vc', hload, hload', hrows.trans hrows'.symm, ?_, ?_⟩
  · rw [hrows, List.length_mapIdx]
  · intro i user hi
    rw [hrows, List.getElem?_mapIdx, hi, Option.map_some,
      rowAfter_fetched (List.mem_of_getElem? hi)]

/-- Two users whose callbacks come in either order, one of them without a
score document. -/
theorem load_order_independent_two :
    let documents :=
      some [profile "Ana" "ana@globo.com" "A", profile "Bia" "bia@globo.com" "B"]
    let reads := fun i => if i = 0 then ScoreRead.document none
      else .document (some ⟨some [stickerScore "B" collection1]⟩)
    ∃ vc vc', load documents reads [0, 1] = some vc ∧
      load documents reads [1, 0] = some vc' ∧ vc.usuarios = vc'.usuarios := by
  intro documents reads
  obtain ⟨vc, vc', h, h', heq, -⟩ :=
    @load_order_independent reads documents [0, 1] [1, 0] (by decide +kernel)
      (by decide +kernel)
  exact ⟨vc, vc', h, h', heq⟩

/-- The table shows the rows exactly when there are none or some callback was
handed a list of scores. -/
theorem rendered_eq_iff
    (horder : order.Perm (List.range (fetched documents).usuarios.length)) :
    ∃ vc, load documents reads order = some vc ∧
      (vc.rendered = vc.usuarios ↔
        (fetched documents).usuarios = [] ∨
          ∃ i < (fetched documents).usuarios.length, (reads i).scores.isSome) := by
  obtain ⟨vc, hload, hrows, hshown⟩ := load_rows reads horder
  refine ⟨vc, hload, ?_⟩
  simp only [← mem_order_iff horder]
  rw [Shown] at hshown
  split at hshown <;> rename_i hread
  · exact iff_of_true hshown (Or.inr hread)
  · rw [hshown, hrows, or_iff_left hread, eq_comm, List.mapIdx_eq_nil_iff]

/-- Three users, of whom the read of the first fails, the second has no score
document, and the third has one: all three are shown. -/
theorem rendered_eq_of_document :
    let documents := some [profile "Ana" "ana@globo.com" "A",
      profile "Bia" "bia@globo.com" "B", profile "Caio" "caio@globo.com" "C"]
    let reads := fun i => if i = 0 then ScoreRead.error else if i = 1 then .document none
      else .document (some ⟨some [stickerScore "C" collection1]⟩)
    ∃ vc, load documents reads [2, 0, 1] = some vc ∧
      (∃ i < (fetched documents).usuarios.length, (reads i).scores.isSome) ∧
      vc.rendered = vc.usuarios := by
  intro documents reads
  obtain ⟨vc, hload, hiff⟩ := @rendered_eq_iff reads documents [2, 0, 1] (by decide +kernel)
  have hread : ∃ i < (fetched documents).usuarios.length, (reads i).scores.isSome :=
    ⟨2, by decide +kernel, rfl⟩
  exact ⟨vc, hload, hread, hiff.mpr (Or.inr hread)⟩

/-- A user who has just signed up and redeemed nothing is not shown. -/
theorem rendered_misses_new_user :
    ¬ ∀ (documents : List Dict) (reads : Nat → ScoreRead) (order : List Nat),
      order.Perm (List.range (fetched (some documents)).usuarios.length) →
      ∃ vc, load (some documents) reads order = some vc ∧ vc.rendered = vc.usuarios := by
  intro h
  obtain ⟨vc, hload, heq⟩ := h [profile "Ana" "ana@globo.com" "A"]
    (fun _ => .document none) [0] (by decide +kernel)
  have hshown : (load (some [profile "Ana" "ana@globo.com" "A"])
      (fun _ => .document none) [0]).map (fun vc => decide (vc.rendered = vc.usuarios)) =
      some false := by decide +kernel
  rw [hload, Option.map_some, decide_eq_true heq] at hshown
  cases hshown

/-! ## What the percentages rank -/

/-- Rows in which the percentages follow the totals. -/
structure Ranks (usuarios : List User) (scores : Nat → List Entry) : Prop where
  monotone : ∀ i j u v, usuarios[i]? = some u → usuarios[j]? = some v →
    totalScore (scores i) ≤ totalScore (scores j) → u.porcent ≤ v.porcent
  zero : ∀ i u, usuarios[i]? = some u → totalScore (scores i) = 0 → u.porcent = 0
  positive : ∀ i u, usuarios[i]? = some u → 0 < totalScore (scores i) → 0 < u.porcent

/-- Rows that all read 0 rank correctly as long as there is nothing to
rank. -/
theorem ranks_iff_of_zero {usuarios : List User} {scores : Nat → List Entry}
    (hzero : ∀ u ∈ usuarios, u.porcent = 0) :
    Ranks usuarios scores ↔ ∀ i < usuarios.length, totalScore (scores i) ≤ 0 := by
  constructor
  · intro h i hi
    by_contra hpos
    have hrow : 0 < usuarios[i].porcent :=
      h.positive i _ (List.getElem?_eq_getElem hi) (by omega)
    have := hzero _ (List.getElem_mem hi)
    omega
  · intro h
    refine ⟨?_, ?_, ?_⟩
    · intro i j u v hu hv _
      rw [hzero u (List.mem_of_getElem? hu), hzero v (List.mem_of_getElem? hv)]
    · intro i u hu _
      exact hzero u (List.mem_of_getElem? hu)
    · intro i u hu hpos
      have := h i (List.getElem?_eq_some_iff.mp hu).1
      omega

/-- When every read brings a list, the percentages follow the totals exactly
when no user's total is positive. -/
theorem ranks_iff {scores : Nat → List Entry}
    (horder : order.Perm (List.range (fetched documents).usuarios.length)) :
    ∃ vc, load documents (fun i => .document (some ⟨some (scores i)⟩)) order = some vc ∧
      (Ranks vc.usuarios scores ↔
        ∀ i < (fetched documents).usuarios.length, totalScore (scores i) ≤ 0) := by
  obtain ⟨vc, hload, hrows, -⟩ := load_rows
    (fun i => .document (some ⟨some (scores i)⟩)) horder
  refine ⟨vc, hload, ?_⟩
  rw [ranks_iff_of_zero, hrows, List.length_mapIdx]
  intro u hu
  rw [hrows] at hu
  obtain ⟨i, hi, rfl⟩ := List.mem_mapIdx.mp hu
  rw [rowAfter_fetched (List.getElem_mem hi)]
  exact porcentOf_eq_zero (scores i)

/-- Three users whose entries the reader skips, and one of them without any:
nobody has a total to rank. -/
theorem ranks_without_scores :
    let documents := some [profile "Ana" "ana@globo.com" "A",
      profile "Bia" "bia@globo.com" "B", profile "Caio" "caio@globo.com" "C"]
    let scores := fun i => if i = 0 then [stickerScore "A" collection2]
      else if i = 1 then [stickerScore "B" collection3, stickerScore "B" collection2] else []
    ∃ vc, load documents (fun i => .document (some ⟨some (scores i)⟩)) [1, 2, 0] =
        some vc ∧
      (∀ i < (fetched documents).usuarios.length, totalScore (scores i) ≤ 0) ∧
      Ranks vc.usuarios scores := by
  intro documents scores
  obtain ⟨vc, hload, hiff⟩ := @ranks_iff documents [1, 2, 0] scores (by decide +kernel)
  have htotals : ∀ i < (fetched documents).usuarios.length, totalScore (scores i) ≤ 0 := by
    decide +kernel
  exact ⟨vc, hload, htotals, hiff.mpr htotals⟩

/-- A user with the 10 points of sticker 1 is ranked at 0. -/
theorem ranking_misses_score :
    ¬ ∀ (documents : List Dict) (scores : Nat → List Entry) (order : List Nat),
      (∀ i, ∀ entry ∈ scores i, ∀ score, scoreOf entry = some score → 0 ≤ score) →
      order.Perm (List.range (fetched (some documents)).usuarios.length) →
      ∃ vc, load (some documents) (fun i => .document (some ⟨some (scores i)⟩)) order =
          some vc ∧ Ranks vc.usuarios scores := by
  intro h
  obtain ⟨vc, hload, hranks⟩ := h [profile "Ana" "ana@globo.com" "A"]
    (fun _ => [stickerScore "A" collection1]) [0]
    (by
      intro i entry hentry score hscore
      rw [List.mem_singleton.mp hentry] at hscore
      have hten : scoreOf (stickerScore "A" collection1) = some 10 := by decide +kernel
      rw [hten, Option.some.injEq] at hscore
      omega)
    (by decide +kernel)
  have hrow : (load (some [profile "Ana" "ana@globo.com" "A"])
      (fun _ => .document (some ⟨some [stickerScore "A" collection1]⟩)) [0]).map
        (fun vc => vc.usuarios[0]?.map User.porcent) = some (some 0) := by decide +kernel
  rw [hload, Option.map_some, Option.some.injEq, Option.map_eq_some_iff] at hrow
  obtain ⟨u, hu, hzero⟩ := hrow
  have hpos := hranks.positive 0 u hu (by decide +kernel)
  omega

end

end RankingViewController

end GloboCollection
