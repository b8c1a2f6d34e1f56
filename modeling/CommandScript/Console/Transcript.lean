import CommandScript.Console.Layout
import CommandScript.Event
import CommandScript.Log.Handler

/-!
# Transcripts

Where the texts of a trace are printed. A session that is given a console prints everything there.
Without one, each sink has an output of its own: the listing goes to the standard output and the
alerts go to the error output.
-/
namespace CommandScript.Console

/-- The output of a sink where no console is given. -/
def outputOf : Sink → Log.Output
  | .listing => .out
  | .alert => .err

/-- What a console of a width shows of a trace when it is given to the session. -/
def transcript (pictures : Pictures) (width : Nat) (trace : Trace) : Text :=
  trace.prints.flatMap fun printed ↦ render pictures width printed.2

/-- What one of the two outputs, of a width, shows of a trace where no console is given. -/
def transcriptOn (pictures : Pictures) (width : Nat) (output : Log.Output) (trace : Trace) :
    Text :=
  (trace.prints.filter fun printed ↦ outputOf printed.1 = output).flatMap
    fun printed ↦ render pictures width printed.2

end CommandScript.Console
