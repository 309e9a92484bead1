import GloboCollection.Lib.Run
import GloboCollection.App.Scores

/-!
# The ranking

`RankingViewController` fetches the `users` collection and makes a row of
each document that has the three fields. It then reads, for each row, the
score document of that user, with all reads under way at the same time; the
callback of a read adds up one field of each entry of the `scores` array,
writes a percentage into the row, and reloads the table.

The callback knows its row by the position it had, and the user by the copy
the loop handed out, which is the row as it was fetched. Writing to a
position the array does not have would end the app; the model answers `none`
there. Of a division by zero nothing finite comes out, and the callback
writes 0 then.

The table shows the rows as they were at the last reload; at first it shows
none.
-/

namespace GloboCollection

open GloboCollection.Lib

/-- A row of the ranking. -/
structure User where
  image : String
  name : String
  email : String
  porcent : Int
  uid : Uid
deriving DecidableEq, Repr

/-- The rows, and the rows the table shows. -/
structure RankingViewController where
  usuarios : List User
  rendered : List User
deriving DecidableEq, Repr

/-- What the callback of a score read is handed. -/
inductive ScoreRead where
  | error
  | document (document : Option ScoreDoc)
deriving DecidableEq

/-- The list of a read that found one. -/
def ScoreRead.scores : ScoreRead → Option (List Entry)
  | .document (some doc) => doc.scores
  | _ => none

/-- The document a sign-up adds to `users`. -/
def RegisterViewController.profile (nickName email : String) (uid : Uid) : Dict :=
  Finmap.insert "nick_name" (.string nickName)
    (Finmap.insert "email" (.string email) (Finmap.insert "uid" (.string uid) ∅))

namespace RankingViewController

/-- The row of a fetched document, if its three fields are there. -/
def userOf (data : Dict) : Option User :=
  match Finmap.lookup "email" data, Finmap.lookup "nick_name" data,
      Finmap.lookup "uid" data with
  | some (.string email), some (.string nickName), some (.string uid) =>
      some { image := "ranking", name := nickName, email := email, porcent := 0, uid := uid }
  | _, _, _ => none

/-- The callback of the fetch; an error leaves the screen as it is. -/
def fetchAllUsersFromFirestore (vc : RankingViewController)
    (documents : Option (List Dict)) : RankingViewController :=
  match documents with
  | some documents => { vc with usuarios := vc.usuarios ++ documents.filterMap userOf }
  | none => vc

/-! ## One user's scores -/

/-- The number an entry contributes: its field `score1`, if that is one. -/
def scoreOf (scoreData : Entry) : Option Int :=
  match Finmap.lookup "score1" scoreData with
  | some (.int score) => some score
  | _ => none

/-- One round of the loop over a user's list. -/
def addScore (totalScore : Int) (scoreData : Entry) : Int :=
  match scoreOf scoreData with
  | some score => totalScore + score
  | none => totalScore

/-- The loop of `calculatePorcentagesFromUserScores` over one user's list. -/
def totalScore (scores : List Entry) : Int := scores.foldl addScore 0

/-- The quotient, as long as it is finite. -/
def percentage (totalScore porcent : Int) : Option Rat :=
  if porcent = 0 then none else some ((totalScore : Rat) / porcent * 100)

/-- `Int(_:)` of a number: what is before the point. -/
def truncate (q : Rat) : Int := if 0 ≤ q then q.floor else q.ceil

/-- What the callback writes for a user, given the copy of the row. -/
def newPorcent (scores : List Entry) (user : User) : Int :=
  match percentage (totalScore scores) user.porcent with
  | some q => truncate q
  | none => 0

/-! ## The callbacks -/

/-- The callback of the score read of row `index`. -/
def scoreCallback (vc : RankingViewController) (index : Nat) (user : User)
    (read : ScoreRead) : Option RankingViewController :=
  match read.scores with
  | some scores =>
      if index < vc.usuarios.length then
        let usuarios := vc.usuarios.modify index fun u =>
          { u with porcent := newPorcent scores user }
        some { usuarios := usuarios, rendered := usuarios }
      else none
  | none => some vc

/-- The callbacks of `calculatePorcentagesFromUserScores`, one for each row
of the copy `enumerated` it went over. -/
def callback (enumerated : List User) (reads : Nat → ScoreRead)
    (vc : RankingViewController) (index : Nat) : Option RankingViewController :=
  match enumerated[index]? with
  | some user => vc.scoreCallback index user (reads index)
  | none => none

/-- The screen once it is loaded and nothing has come back yet. -/
def loaded : RankingViewController := ⟨[], []⟩

/-- The screen when the callback of the fetch has run and the score reads
have just gone out. -/
def fetched (documents : Option (List Dict)) : RankingViewController :=
  loaded.fetchAllUsersFromFirestore documents

/-- The screen after the fetch, when the callbacks of the score reads have
run in the given order. -/
def load (documents : Option (List Dict)) (reads : Nat → ScoreRead) (order : List Nat) :
    Option RankingViewController :=
  run (callback (fetched documents).usuarios reads) (fetched documents) order

end RankingViewController

end GloboCollection
