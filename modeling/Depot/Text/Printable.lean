import Depot.Text.Packed

namespace Depot.Text

def printableTable : String := "
0E;20S;5fE;22S;cE;1S;252E;70S;8E;2S;6E;4S;7E;1S;1E;1S;14E;1S;e0E;7S;a6E;1S;26E;2S;32E;2S;3E;
2eS;1E;1S;1E;2S;1E;2S;1E;9S;1bE;4S;6E;11S;aE;bS;1E;1S;2eE;15S;10E;1S;65E;8S;1E;6S;2E;2S;1E;
4S;20E;2S;1E;1S;1eE;1dS;59E;bS;1E;eS;2bE;9S;7E;3S;18E;4S;1E;9S;1E;3S;1E;7S;fE;1S;19E;5S;1E;
1S;bE;5S;20E;10S;2aE;39S;37E;1S;1E;1S;4E;8S;4E;1S;3E;7S;aE;2S;1dE;1S;2E;1S;8E;2S;2E;2S;16E;
1S;7E;1S;1E;3S;4E;3S;1E;1S;2E;6S;2E;2S;2E;1S;1E;dS;2E;1S;3E;4S;18E;5S;1E;1S;6E;4S;2E;2S;16E;
1S;7E;1S;2E;1S;2E;1S;2E;4S;3E;18S;4E;1S;1E;7S;aE;2S;3E;1S;1E;cS;1E;1S;9E;1S;3E;1S;16E;1S;7E;
1S;2E;1S;5E;3S;4E;8S;1E;1S;2E;3S;1E;fS;2E;4S;cE;7S;1E;8S;2E;1S;8E;2S;2E;2S;16E;1S;7E;1S;2E;
1S;5E;3S;1E;2S;1E;6S;2E;2S;2E;fS;2E;1S;3E;4S;12E;bS;1E;1S;6E;3S;3E;1S;4E;3S;2E;1S;1E;1S;2E;
3S;2E;3S;3E;3S;cE;5S;1E;1S;2E;3S;3E;1S;3E;3S;1E;15S;15E;6S;3E;1S;8E;1S;3E;1S;17E;1S;10E;3S;
1E;3S;4E;13S;3E;1S;2E;2S;2E;4S;aE;7S;aE;1S;bE;1S;3E;1S;17E;1S;aE;1S;5E;3S;2E;2S;1E;1S;2E;
17S;3E;1S;2E;4S;aE;1S;3E;eS;bE;1S;3E;1S;29E;2S;1E;1S;2E;5S;3E;1S;3E;1S;2E;4S;3E;1S;aE;4S;
1aE;2S;2E;1S;12E;3S;18E;1S;9E;1S;1E;2S;7E;9S;2E;6S;7E;7S;aE;2S;3E;cS;30E;1S;2E;bS;8E;8S;dE;
25S;2E;1S;1E;1S;5E;1S;18E;1S;1E;1S;aE;1S;2E;9S;1E;2S;5E;1S;1E;9S;aE;2S;4E;20S;18E;2S;1bE;1S;
1E;1S;1E;1S;eE;1S;24E;12S;1E;5S;1E;2S;5E;31S;8E;1S;6E;1S;dE;25S;2dE;4S;1E;6S;1E;2S;2E;2S;
19E;2S;4E;3S;10E;4S;dE;1S;2E;2S;6E;1S;fE;1S;28E;1S;1E;5S;1E;2S;179E;1S;4E;2S;7E;1S;1E;1S;4E;
2S;29E;1S;4E;2S;21E;1S;4E;2S;7E;1S;1E;1S;4E;2S;fE;1S;39E;1S;4E;2S;43E;5S;1dE;3S;1aE;6S;56E;
2S;6E;2S;280E;1S;1cE;3S;59E;7S;12E;dS;13E;3S;2E;9S;12E;eS;dE;1S;3E;fS;34E;2S;1E;7S;8E;1S;2E;
bS;9E;3S;aE;6S;aE;6S;bE;5S;aE;6S;59E;7S;5E;2S;22E;1S;1E;5S;46E;aS;1fE;4S;4E;2S;3E;4S;2E;1S;
6E;7S;1E;3S;2aE;2S;5E;bS;2cE;4S;1aE;6S;bE;3S;39E;2S;2E;3S;38E;1S;1E;9S;1E;1S;2E;8S;6E;dS;aE;
6S;aE;6S;eE;56S;30E;aS;4E;3S;8E;1S;1dE;9S;cE;2S;20E;4S;2E;6S;38E;1S;1E;2S;3E;1S;1E;dS;30E;
8S;2E;5S;fE;3S;3eE;5S;2bE;2S;bE;bS;1E;dS;1E;7S;4E;1S;6E;1S;3E;2S;1E;5S;c0E;40S;116E;2S;6E;
2S;26E;2S;6E;2S;8E;1S;1E;1S;1E;1S;1E;1S;1fE;2S;35E;1S;fE;1S;eE;2S;6E;1S;13E;2S;3E;1S;9E;11S;
18E;8S;2fE;11S;2E;2S;1bE;1S;dE;3S;22E;3eS;8cE;4S;29aE;16S;bE;15S;714E;2S;179E;3S;2E;5S;2dE;
1S;1E;5S;1E;2S;38E;7S;2E;fS;17E;9S;7E;1S;7E;1S;7E;1S;7E;1S;7E;1S;7E;1S;7E;1S;7E;21S;5eE;22S;
1aE;1S;59E;cS;d6E;1aS;10E;1S;29E;6S;10E;1S;56E;4S;65E;5S;2bE;1S;5eE;1S;56E;9S;30E;1S;726dE;
3S;37E;9S;15cE;14S;2fE;4S;1E;aS;20E;2S;50E;2S;6E;8S;ddE;14S;11E;1S;3E;1S;4E;1S;19E;2S;5E;4S;
aE;6S;38E;8S;44E;aS;cE;18S;dE;1S;26E;8S;19E;bS;1E;cS;1eE;6S;30E;1S;2E;4S;2E;2S;2E;1S;dE;1S;
bE;4S;7E;1S;19E;1S;29E;6S;2E;2S;2E;bS;3E;1S;8E;1S;1E;2S;aE;2S;20E;1S;33E;1S;1E;3S;2E;2S;5E;
2S;1E;1S;1E;18S;11E;2S;8E;bS;6E;2S;6E;2S;6E;9S;7E;1S;7E;1S;3cE;4S;75E;1S;2E;1S;4E;3S;aE;6S;
2ba4E;cS;17E;4S;31E;2104S;16eE;2S;6aE;26S;7E;cS;5E;5S;1E;1S;18E;1S;5E;1S;1E;1S;2E;1S;2E;1S;
28aE;20S;10E;10S;aE;16S;23E;1S;13E;1S;4E;4S;5E;1S;87E;4S;9dE;2S;1fE;3S;6E;2S;6E;2S;6E;2S;3E;
3S;7E;1S;7E;dS;2E;2S;cE;1S;1aE;1S;13E;1S;2E;1S;fE;2S;eE;22S;7bE;5S;3E;4S;2dE;3S;58E;1S;dE;
3S;1E;2fS;2dE;83S;1dE;3S;31E;10S;1bE;4S;24E;9S;1eE;5S;26E;aS;1eE;1S;25E;4S;eE;2aS;9eE;2S;aE;
6S;24E;4S;24E;4S;28E;8S;34E;bS;cE;1S;fE;1S;7E;1S;2E;1S;bE;1S;fE;1S;7E;1S;2E;3S;34E;cS;137E;
9S;16E;aS;8E;18S;6E;1S;2aE;1S;9E;45S;6E;2S;1E;1S;2cE;1S;2E;3S;1E;2S;17E;1S;48E;8S;9E;30S;
13E;1S;2E;5S;21E;3S;1bE;5S;1bE;26S;38E;4S;14E;2S;2fE;fS;4E;1S;3E;1S;1dE;aS;9E;7S;9E;7S;40E;
20S;25E;6S;cE;9S;36E;3S;1dE;2S;1bE;5S;1aE;7S;4E;cS;7E;50S;49E;37S;33E;dS;33E;7S;2aE;cS;aE;
6S;26E;8S;18E;8S;2E;d0S;1fE;1S;2aE;3S;1E;2S;2E;10S;6E;8S;9E;27S;28E;8S;16E;bS;9E;16S;12E;4S;
4E;26S;1cE;14S;17E;9S;1E;1S;36E;fS;7E;4S;1eE;1S;2E;2S;1E;cS;31E;4S;2E;2S;2E;1S;4E;eS;19E;7S;
aE;9S;24E;5S;1E;9S;12E;8S;23E;1S;3E;bS;34E;9S;1E;1S;8E;4S;2E;1S;10E;1S;14E;bS;12E;1S;1cE;3S;
2E;4S;6E;1S;2E;3fS;7E;1S;1E;1S;4E;1S;fE;1S;bE;6S;2fE;1S;3E;dS;aE;8S;2E;1S;8E;2S;2E;2S;16E;
1S;7E;1S;2E;1S;5E;3S;1E;1S;1E;1S;4E;2S;2E;2S;2E;3S;1E;cS;7E;1cS;aE;1S;1E;2S;1E;1S;26E;1S;1E;
1S;2E;fS;1E;1S;2E;3S;1E;1S;3E;1S;2E;27S;38E;8S;2E;3S;1E;1S;15E;1S;1E;1S;3E;1eS;30E;1S;2E;6S;
1E;1S;2E;1S;1E;2S;1E;2S;4E;8S;aE;a6S;2fE;1S;2E;6S;4E;2S;1E;2S;1bE;24S;33E;8S;2E;1S;1E;2S;4E;
bS;aE;6S;dE;13S;2bE;1S;1E;1S;2E;8S;2E;6S;aE;6S;14E;1cS;1bE;3S;1E;1S;2E;4S;1E;9S;17E;b9S;2fE;
9S;1E;2S;1E;64S;53E;cS;8E;2S;1E;2S;8E;1S;2E;1S;18E;1S;5E;1S;2E;6S;4E;1S;3E;9S;aE;46S;8E;2S;
2aE;8S;4E;1S;4E;1bS;1E;aS;28E;6S;2E;4S;8E;9S;1E;6S;2E;3S;2eE;dS;1E;2S;9E;dS;49E;7S;aE;57S;
1E;3S;1E;1S;1E;58S;22E;eS;aE;6S;9E;1S;26E;eS;1E;1S;6E;aS;1dE;3S;20E;19S;1E;7S;1E;2S;1E;4bS;
7E;1S;2E;1S;26E;15S;1E;9S;aE;6S;6E;1S;2E;1S;25E;4S;2E;1S;1E;1S;1E;7S;aE;6S;2cE;4S;aE;f6S;
13E;2S;4E;9S;fE;1S;24E;8S;2E;3S;17E;56S;1E;fS;32E;dS;39bE;66S;6fE;1S;5E;bS;c4E;a4cS;63E;dS;
430E;11S;6E;19S;f9bE;5S;247E;1ab9S;1eE;cS;3E;3S;aE;6c6S;239E;7S;1fE;1S;aE;4S;51E;1S;aE;6S;
1eE;7S;1E;aS;30E;7S;fE;aS;aE;1S;7E;1S;15E;5S;13E;1b0S;3aE;c6S;5bE;5S;19E;2S;19E;2cS;4bE;5S;
38E;bS;dE;40S;4E;eS;5E;9S;1cd6E;29S;20E;61S;73E;21fdS;4E;1S;7E;1S;2E;1S;123E;fS;1E;1dS;3E;
2S;1E;eS;4E;8S;18cE;904S;6bE;5S;dE;3S;9E;7S;aE;2S;1E;2S;1E;f60S;fdE;3S;1b4E;6S;17E;fS;11E;
5fS;74E;3cS;f6E;aS;27E;2S;3cE;5S;3E;16S;2E;7S;1eE;4S;3dE;15S;42E;3S;1E;7aS;14E;cS;14E;cS;
57E;9S;19E;87S;55E;1S;47E;1S;2E;2S;1E;2S;2E;2S;4E;1S;cE;1S;1E;1S;7E;1S;41E;1S;4E;2S;8E;1S;
7E;1S;1cE;1S;4E;1S;5E;1S;1E;3S;7E;1S;154E;2S;124E;2S;232E;37S;4E;32S;8E;1S;eE;1S;7E;474S;
1fE;6S;6E;105S;3eE;92S;2dE;aS;7E;2S;aE;4S;2E;140S;1eE;12S;2cE;4S;aE;5S;1E;1d0S;1cE;4S;aE;
d6S;1eE;2S;bE;4S;1E;c0S;1fE;1S;3E;1S;2E;1S;7E;2S;5E;9S;2E;e0S;7E;1S;4E;1S;2E;1S;fE;1S;c5E;
2S;9E;30S;44E;7S;1E;4S;aE;4S;2E;311S;44E;4cS;3dE;c2S;4E;1S;1bE;1S;2E;1S;1E;2S;1E;1S;aE;1S;
4E;1S;1E;1S;1E;6S;1E;4S;1E;1S;1E;1S;1E;1S;3E;1S;2E;1S;1E;2S;1E;1S;1E;1S;1E;1S;1E;1S;1E;1S;
2E;1S;1E;2S;4E;1S;7E;1S;4E;1S;4E;1S;1E;1S;aE;1S;11E;5S;3E;1S;5E;1S;11E;34S;2E;10eS;2cE;4S;
64E;cS;fE;2S;fE;1S;fE;1S;25E;aS;aeE;38S;1dE;dS;2cE;4S;9E;7S;2E;eS;6E;9aS;3d9E;3S;11E;3S;dE;
3S;daE;6S;cE;4S;1E;fS;cE;4S;38E;8S;aE;6S;28E;8S;1eE;2S;cE;4S;2E;eS;9E;27S;158E;8S;eE;2S;dE;
3S;bE;3S;39E;1S;1E;4S;10E;2S;cE;4S;aE;7S;93E;1S;67E;405S;a6e0E;20S;111eE;2S;168eE;2S;1d31E;
fS;26eE;9a2S;21eE;5e2S;134bE;5S;212aE;"

def printableRows : Array Row := Row.unpack printableTable

def isPrintable (c : Char) : Bool :=
  match Row.find? printableRows c.toNat with
  | some r => r.tag == 'S'
  | none => false

end Depot.Text
