/-!
This module contains the socket constants that can be referred to by name.
-/

namespace NativeCall.SocketConstant

def levels : List (String × Int32) :=
  [("SOCKET", 1), ("IP", 0), ("TCP", 6), ("UDP", 17), ("IPV6", 41)]

def options : List (String × Int32) :=
  [("ACCEPTCONN", 30), ("BROADCAST", 6), ("DEBUG", 1), ("DONTROUTE", 5), ("ERROR", 4),
    ("KEEPALIVE", 9), ("LINGER", 13), ("OOBINLINE", 10), ("RCVBUF", 8), ("RCVLOWAT", 18),
    ("RCVTIMEO", 20), ("REUSEADDR", 2), ("REUSEPORT", 15), ("SNDBUF", 7), ("SNDLOWAT", 19),
    ("SNDTIMEO", 21), ("TYPE", 3)]

def levelName (short : String) : String :=
  "SOL_" ++ short

def optionName (short : String) : String :=
  "SO_" ++ short

def table : List (String × Int32) :=
  levels.map (fun (n, v) => (levelName n, v)) ++ options.map fun (n, v) => (optionName n, v)

def find? (name : String) : Option Int32 :=
  table.lookup name

end NativeCall.SocketConstant
