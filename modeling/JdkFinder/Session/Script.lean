import JdkFinder.Session

/-!
# Collaborators that follow a script

Collaborators whose behaviour is laid down act by act: each call performs the next act, and the
last act is performed again and again.  They show what a session does with every kind of answer
without a machine behind it.
-/

namespace JdkFinder

/-! ## §1 Acts -/

/-- What a collaborator does when it is called. -/
inductive Act (α : Type) where
  /-- Gives the list, and lets others go on first if it need not be given at once. -/
  | serve (list : List α)
  /-- Gives the list unless the session is cancelled. -/
  | checkedServe (list : List α)
  | fail (e : Error)
  | cancelThenServe (list : List α)
  | cancelThenFail
  /-- Cancels the session and never ends. -/
  | cancelThenHang
  | crash
  deriving DecidableEq, Repr

namespace Act

variable {α : Type}

/-- The next act of a script, and what is left of the script. -/
def next : List (Act α) → Act α × List (Act α)
  | [] => (.serve [], [])
  | [act] => (act, [act])
  | act :: rest => (act, rest)

/-- An act as a look at the table.  Such a look cannot hang, so it ends cancelled. -/
def tableReply (cancelled : Bool) : Act RegisteredJdk → TableReply × Bool
  | serve list => (.served list, false)
  | checkedServe list => (if cancelled then .failed .cancelled else .served list, false)
  | fail e => (.failed e, false)
  | cancelThenServe list => (.served list, true)
  | cancelThenFail => (.failed .cancelled, true)
  | cancelThenHang => (.failed .cancelled, true)
  | crash => (.crashed, false)

/-- An act as a scan or a fetch.  Neither is begun once the session is cancelled. -/
def future : Act α → Future (List α)
  | serve list => .pending false (.ready false (.ok list))
  | checkedServe list => .ready false (.ok list)
  | fail e => .ready false (.error e)
  | cancelThenServe list => .ready true (.ok list)
  | cancelThenFail => .ready true (.error .cancelled)
  | cancelThenHang => .stalled true
  | crash => .ready false (.error (.internal "the work broke down"))

end Act

/-! ## §2 Scripts -/

/-- The acts that the collaborators have left. -/
structure Script where
  table : List (Act RegisteredJdk)
  scans : List (Act DetectedJdk)
  fetches : List (Act DownloadableJdk)
  deriving DecidableEq, Repr

/-- Collaborators that follow a script. -/
def Collaborators.scripted : Collaborators Script where
  readTable cancelled script :=
    let (act, table) := Act.next script.table
    (act.tableReply cancelled, { script with table })
  scan script :=
    let (act, scans) := Act.next script.scans
    (act.future, { script with scans })
  fetch script :=
    let (act, fetches) := Act.next script.fetches
    (act.future, { script with fetches })

end JdkFinder
