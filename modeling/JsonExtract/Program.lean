/-!
# The program

What the program calls itself, to its users and to servers.
-/

namespace JsonExtract.Program

def name : String := "jsonpick"

def version : String := "0.1.0"

end JsonExtract.Program
