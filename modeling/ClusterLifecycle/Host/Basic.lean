import ClusterLifecycle.Command.Basic
import ClusterLifecycle.Manifest.Library
import ClusterLifecycle.Program

/-!
What the program asks of the machine that hosts it: files, commands, and printing.
-/

namespace ClusterLifecycle

namespace Host

inductive Request where
  | readText (path : String)
  | makeDirectories (path : String)
  | writeText (path text : String)
  | moveFile (source target : String)
  | openTemplates (path : String)
  | run (command : Command)
  | print (text : String)
  deriving DecidableEq, Repr

/-- A directory of templates is answered by what it holds, or by nothing where there is none. -/
def Request.Answer : Request → Type
  | .readText _ => Except SystemError String
  | .makeDirectories _ => Except SystemError Unit
  | .writeText _ _ => Except SystemError Unit
  | .moveFile _ _ => Except SystemError Unit
  | .openTemplates _ => Option Manifest.Library
  | .run _ => RunResult
  | .print _ => Unit

end Host

abbrev HostProgram := Program Host.Request Host.Request.Answer

namespace Host

def readText (path : String) : HostProgram (Except SystemError String) :=
  .ask (.readText path) .done

def makeDirectories (path : String) : HostProgram (Except SystemError Unit) :=
  .ask (.makeDirectories path) .done

def writeText (path text : String) : HostProgram (Except SystemError Unit) :=
  .ask (.writeText path text) .done

def moveFile (source target : String) : HostProgram (Except SystemError Unit) :=
  .ask (.moveFile source target) .done

def openTemplates (path : String) : HostProgram (Option Manifest.Library) :=
  .ask (.openTemplates path) .done

def run (command : Command) : HostProgram RunResult :=
  .ask (.run command) .done

def print (text : String) : HostProgram Unit :=
  .ask (.print text) .done

end Host

end ClusterLifecycle
