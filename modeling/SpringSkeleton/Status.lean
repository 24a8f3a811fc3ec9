import SpringSkeleton.Path
import SpringSkeleton.Text.Pieces

namespace SpringSkeleton.Status

def failureMark : String := "Failed to"

def failure (action cause : String) : String := failureMark ++ " " ++ action ++ ": " ++ cause

def isFailure (status : String) : Bool := Text.startsWith failureMark status

def projectExists (path : Path) : String := "Project directory already exists: " ++ path.text

def projectCreated (name : String) (path : Path) : String :=
  "Project " ++ name ++ " bootstrapped successfully at " ++ path.text

def domainEnhanced (entity package : String) (directory : Path) : String :=
  "Enhanced domain for " ++ entity ++ " in package " ++ package ++ " at " ++ directory.text

def testsGenerated (path : Path) (text : String) : String :=
  "Generated test at " ++ path.text ++ "\n\n" ++ text

end SpringSkeleton.Status
