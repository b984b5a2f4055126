import Typeahead.Document
import Typeahead.Moment
import Typeahead.Resource.Disk
import Typeahead.Resource.Path
import Typeahead.Template.Fill

/-!
# Faults

Why an action has no answer. A fault is a cause; its wording is made when it
is shown. Some faults only say that a resource could not be read, and those do
not stop a request.
-/

namespace Typeahead

open Typeahead.Text
open Typeahead.Resource

/-- What kind of trouble a collaborator reports. -/
inductive Failure where
  | permissionDenied
  | notFound
  | isFolder
  | timedOut
  | connectionLost
  | wouldBlock
  | interrupted
  | system
  /-- A trouble of the system of another kind, named by a label. -/
  | otherSystem (label : String)
  | importFailed
  | moduleNotFound
  /-- A failure of any other kind, named by a label. -/
  | other (label : String)
  deriving DecidableEq, Repr

/-- Whether a failure is one of the system or of finding a package. -/
def Failure.isReadFailure : Failure → Bool
  | .other _ => false
  | _ => true

/-- The trouble that a collaborator reports. -/
structure Trouble where
  failure : Failure
  message : String
  deriving DecidableEq, Repr

/-- Why an action has no answer. -/
inductive Fault where
  | coordinate (t : Coordinate.Trouble)
  | misfit (m : Misfit)
  /-- Something other than a text stands where a word has to be. -/
  | notAWord
  /-- A table is asked for what has a place and no name. -/
  | noItem (place : Int)
  | origin (t : Origin.Trouble)
  | package (t : Packages.Trouble)
  /-- A path, or a name in it, is longer than the system allows. -/
  | nameTooLong (path : String)
  | template (t : Template.Trouble)
  /-- What names the resources is no text, and so no template. -/
  | notATemplate
  /-- What names the origin of resources is no text. -/
  | notAnAddress
  | unknownEncoding (name : String)
  /-- The name of an encoding holds a null character. -/
  | nullInEncoding
  /-- The value of a variable holds a null character. -/
  | nullInVariable
  | unknownLevel (name : String)
  | moment (t : Moment.Trouble)
  | collaborator (t : Trouble)
  deriving DecidableEq, Repr

namespace Fault

def isReadFailure : Fault → Bool
  | .package (.notFound _) | .package (.notInside _ _) | .nameTooLong _ => true
  | .collaborator t => t.failure.isReadFailure
  | _ => false

/-- The wording of a fault; none when it has no words of its own. -/
def message? : Fault → Option String
  | .coordinate (.numeral t) => some t.message
  | .coordinate .infinite => some "cannot convert float infinity to integer"
  | .coordinate .notANumber => some "cannot convert float NaN to integer"
  | .coordinate .missing | .coordinate (.misfit _) => none
  | .misfit _ | .notAWord | .notATemplate | .notAnAddress => none
  | .noItem place => some (toString place)
  | .origin t => some t.message
  | .package t => t.message?
  | .nameTooLong path => some ("[Errno 36] File name too long: " ++ quoted path)
  | .template t => some t.message
  | .unknownEncoding name => some ("unknown encoding: " ++ name)
  | .nullInEncoding => some "embedded null character"
  | .nullInVariable => some "embedded null byte"
  | .unknownLevel name => some ("Unknown level: " ++ quoted name)
  | .moment t => some t.message
  | .collaborator t => some t.message

def message (fault : Fault) : String :=
  fault.message?.getD ""

end Fault

end Typeahead
