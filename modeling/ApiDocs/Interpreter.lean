/-!
What the program's interpreter has room for. A call takes a frame of a stack that holds a thousand, and how many frames are
left where a document is read or a module is parsed depends on the callers: it is an assumption of this library that they
take ten. How many octets the memory holds depends on the machine; that it holds four gigabytes is an assumption as well.
Trees of files are not bounded by the stack: directories and links are assumed to be fewer one behind the other than it has
frames to walk, make and resolve them.
-/
namespace ApiDocs.Interpreter

/-- The frames that are left where a document is read, redacted or built: the assumption about the callers. -/
def freeFrames : Nat := 990

/-- The calls of the parser that may be open at once, which is a limit of its own. -/
def parserCalls : Nat := 6000

/-- The octets that memory is found for at once: the assumption about the machine. -/
def freeOctets : Nat := 0x100000000

end ApiDocs.Interpreter
