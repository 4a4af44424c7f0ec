import SnippetGauge.Comment
import SnippetGauge.Language

set_option autoImplicit false

namespace SnippetGauge

open Text

def normalize (source : Text) : Text := trim (stripSlashComments source)

def Profile.keywordPoints (profile : Profile) (code : Text) : Int :=
  2 * profile.keywords.countP fun keyword => occursIn keyword.toList code

def Profile.bonusPoints (profile : Profile) (code : Text) : Int :=
  (profile.bonuses.filter (·.holds code)).foldl (fun sum bonus => sum + bonus.weight) 0

def Profile.negativePoints (profile : Profile) (code : Text) : Int :=
  2 * profile.negatives.countP fun negative => occursIn negative.toList code

def Profile.points (profile : Profile) (code : Text) : Int :=
  profile.keywordPoints code + profile.bonusPoints code - profile.negativePoints code

structure Scores where
  cpp : Int
  java : Int
  python : Int
  deriving DecidableEq, Repr

def Scores.best (scores : Scores) : Int := max scores.cpp (max scores.java scores.python)

/-- The best score counts from three points on; of equal scores the first language wins. -/
def Scores.winner (scores : Scores) : Language :=
  if scores.best < 3 then .unidentified
  else if scores.cpp = scores.best then .cpp
  else if scores.java = scores.best then .java
  else .python

def score (source : Text) : Scores :=
  let code := normalize source
  ⟨Profile.cpp.points code, Profile.java.points code, Profile.python.points code⟩

def detect (source : Text) : Language := (score source).winner

end SnippetGauge
